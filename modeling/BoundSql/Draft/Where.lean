import BoundSql.Query

/-!
# Writing `where` clauses

A clause is written criterion by criterion. The first one has no connector of its own making; each
further one is joined by `and` or `or`, whatever connector it had before.
-/

namespace BoundSql

/-- A `where` clause as it is written. -/
structure WhereDraft where
  criteria : List Criterion

namespace WhereDraft

def empty : WhereDraft := ⟨[]⟩

def startingWith (c : Criterion) : WhereDraft := ⟨[c]⟩

def isEmpty (w : WhereDraft) : Bool := w.criteria.isEmpty

/-- The clause with a criterion behind it as it is. -/
def push (w : WhereDraft) (c : Criterion) : WhereDraft := ⟨w.criteria ++ [c]⟩

/-- The clause with a criterion joined to it. -/
def join (w : WhereDraft) (connector : Connector) (c : Criterion) : WhereDraft :=
  w.push (c.joined connector)

def and (w : WhereDraft) (c : Criterion) : WhereDraft := w.join .and c

def or (w : WhereDraft) (c : Criterion) : WhereDraft := w.join .or c

end WhereDraft

end BoundSql
