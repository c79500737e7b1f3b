import BoundSql.Draft.Where
import BoundSql.Error

/-!
# Writing selects

A select is written block by block. `SelectDraft` has a block in hand, which takes joins, criteria
and a grouping until a union starts the next one; `SelectEnding` has no block in hand any more and
takes the order of the rows and the paging. The select is refused if one of its blocks selects
nothing.
-/

namespace BoundSql

/-- A select whose last block is in hand. -/
structure SelectDraft where
  finished : List Block
  block : Block

/-- A select whose blocks are all finished. -/
structure SelectEnding where
  blocks : List Block
  sorts : List SortSpec := []

namespace SelectDraft

def blockFrom (union : Option UnionKind) (distinct : Bool) (items : List SelectItem) (table : Table)
    (asName : Option String) : Block :=
  ⟨union, distinct, items, table, asName, [], [], []⟩

/-- A select of the given items from a table. -/
def select (items : List SelectItem) (table : Table) (asName : Option String := none)
    (distinct : Bool := false) : SelectDraft :=
  ⟨[], blockFrom none distinct items table asName⟩

def countFrom (table : Table) : SelectDraft := select [⟨.countAll, none⟩] table

def join (d : SelectDraft) (kind : JoinKind) (table : Table) (asName : Option String)
    (left right : Column) : SelectDraft :=
  { d with block.joins := d.block.joins ++ [⟨kind, table, asName, [⟨none, left, right⟩]⟩] }

/-- Joins with the last one also on the equality of two more columns. -/
def refineLast (left right : Column) : List Join → List Join
  | [] => []
  | [j] => [{ j with criteria := j.criteria ++ [⟨some .and, left, right⟩] }]
  | j :: js => j :: refineLast left right js

def andOn (d : SelectDraft) (left right : Column) : SelectDraft :=
  { d with block.joins := refineLast left right d.block.joins }

/-- The select of the rows that meet a clause. -/
def meeting (d : SelectDraft) (clause : WhereDraft) : SelectDraft :=
  { d with block.criteria := clause.criteria }

def groupBy (d : SelectDraft) (items : List SelectItem) : SelectDraft :=
  { d with block.groupBy := items.map SelectItem.expression }

/-- The select with another block put to it. -/
def union (d : SelectDraft) (kind : UnionKind) (items : List SelectItem) (table : Table)
    (asName : Option String := none) (distinct : Bool := false) : SelectDraft :=
  ⟨d.finished ++ [d.block], blockFrom (some kind) distinct items table asName⟩

/-- The select without further blocks. -/
def finish (d : SelectDraft) : SelectEnding := ⟨d.finished ++ [d.block], []⟩

end SelectDraft

namespace SelectEnding

/-- The select with its rows sorted, behind the sorting it already has. -/
def orderBy (e : SelectEnding) (sorts : List SortSpec) : SelectEnding :=
  { e with sorts := e.sorts ++ sorts }

/-- The select, if each of its blocks selects something. -/
def build (e : SelectEnding) (paging : Option Paging := none) : Except StatementError Select :=
  if e.blocks.any fun b => b.items.isEmpty then .error (.missing .selectList)
  else .ok ⟨e.blocks, e.sorts, paging⟩

end SelectEnding

end BoundSql
