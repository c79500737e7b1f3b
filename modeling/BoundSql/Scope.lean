import BoundSql.Schema.Table

/-!
# Scopes of aliases

A statement names its tables by aliases, and a sub-select sees its own aliases first and then those
of the selects around it. A `Scope` is the stack of these levels, the innermost first.
-/

namespace BoundSql

/-- Aliases by level, the innermost first. -/
structure Scope where
  levels : List (List (Table × String))

namespace Scope

/-- The scope in which no table has an alias. -/
def empty : Scope := ⟨[]⟩

/-- The scope inside another one, with aliases of its own. -/
def child (outer : Scope) (own : List (Table × String)) : Scope := ⟨own :: outer.levels⟩

/-- The alias of a table on one level, where a later one counts before an earlier one. -/
def aliasOn (level : List (Table × String)) (t : Table) : Option String :=
  (level.reverse.find? fun entry => entry.1.same t).map Prod.snd

/-- The alias of a table: that of the innermost level that has one. -/
def aliasOf (s : Scope) (t : Table) : Option String :=
  s.levels.findSome? fun level => aliasOn level t

@[simp]
theorem aliasOf_empty (t : Table) : empty.aliasOf t = none := rfl

/-- The own aliases of a scope count before those from outside. -/
theorem aliasOf_child (outer : Scope) (own : List (Table × String)) (t : Table) :
    (outer.child own).aliasOf t = (aliasOn own t).or (outer.aliasOf t) := by
  unfold aliasOf child
  cases h : aliasOn own t <;> simp [List.findSome?, h]

def isEmpty (s : Scope) : Bool := s.levels.all List.isEmpty

end Scope

end BoundSql
