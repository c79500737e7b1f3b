import BoundSql.Condition.Combinators
import BoundSql.Expression
import BoundSql.Value.Basic

/-!
# Queries

The model of a `select` statement and of the criteria of a `where` clause. The two contain each
other: a criterion can ask whether rows of a select exist, or compare a column with a select.

A criterion carries what it tests itself and the criteria below it. Its connector says how it is
joined to the criteria before it; the first one rendered in a group loses its connector.
-/

namespace BoundSql

/-- How a criterion is joined to those before it. -/
inductive Connector where
  | and | or
  deriving DecidableEq

def Connector.keyword : Connector → String
  | .and => "and"
  | .or => "or"

/-- Which rows of the two sides a join keeps. -/
inductive JoinKind where
  | inner | left | right | full
  deriving DecidableEq

def JoinKind.keyword : JoinKind → String
  | .inner => "join"
  | .left => "left join"
  | .right => "right join"
  | .full => "full join"

/-- The equality of two columns, on which tables are joined. -/
structure JoinCriterion where
  /-- The first criterion of a join has no connector. -/
  connector : Option Connector
  left : Column
  right : Column

structure Join where
  kind : JoinKind
  table : Table
  asName : Option String
  criteria : List JoinCriterion

/-- How the rows of two selects are put together. -/
inductive UnionKind where
  | union | unionAll
  deriving DecidableEq

def UnionKind.keyword : UnionKind → String
  | .union => "union"
  | .unionAll => "union all"

/-- The part of the rows that is asked for. -/
inductive Paging where
  | limit (limit : Nat) (offset : Option Nat)
  | fetch (offset first : Option Nat)

mutual

/-- A node of a `where` clause. -/
structure Criterion where
  connector : Option Connector
  test : Test
  children : List Criterion

/-- What a criterion tests itself. -/
inductive Test where
  | column (column : Column) (condition : Condition Select Value)
  /-- Rows of a select exist, or do not exist. -/
  | existence (query : Select) (negated : Bool)
  /-- Nothing; the criterion only groups those below it. -/
  | group

structure Select where
  blocks : List Block
  orderBy : List SortSpec
  paging : Option Paging

/-- One select of a chain of unions. -/
structure Block where
  /-- How the block is joined to those before it; the first one is joined to nothing. -/
  union : Option UnionKind
  distinct : Bool
  items : List SelectItem
  table : Table
  asName : Option String
  joins : List Join
  criteria : List Criterion
  groupBy : List Expression

end

namespace Criterion

/-- A condition on a column. -/
def ofCondition (column : Column) (condition : Condition Select Value) : Criterion :=
  ⟨none, .column column condition, []⟩

/-- A condition on a column, with its values turned into bound ones. -/
def erasing {α : Type} (toValue : α → Value) (column : Column) (condition : Condition Select α) :
    Criterion :=
  ofCondition column (condition.map toValue)

def existing (query : Select) : Criterion := ⟨none, .existence query false, []⟩

def notExisting (query : Select) : Criterion := ⟨none, .existence query true, []⟩

def group (children : List Criterion) : Criterion := ⟨none, .group, children⟩

/-- The criterion joined by a connector. -/
def joined (connector : Connector) (c : Criterion) : Criterion :=
  { c with connector := some connector }

/-- The criterion with more criteria below it. -/
def withChildren (c : Criterion) (children : List Criterion) : Criterion :=
  { c with children := c.children ++ children }

/-- The criterion with a condition below it, joined by `and`. -/
def and (c : Criterion) (column : Column) (condition : Condition Select Value) : Criterion :=
  c.withChildren [(ofCondition column condition).joined .and]

/-- The criterion with a condition below it, joined by `or`. -/
def or (c : Criterion) (column : Column) (condition : Condition Select Value) : Criterion :=
  c.withChildren [(ofCondition column condition).joined .or]

end Criterion

/-- A table with its alias, if it has one. -/
def aliasEntry (table : Table) (asName : Option String) : List (Table × String) :=
  match asName with
  | some a => [(table, a)]
  | none => []

/-- The aliases of a table and of the tables joined to it, in this order. -/
def aliasesOf (table : Table) (asName : Option String) (joins : List Join) :
    List (Table × String) :=
  aliasEntry table asName ++ joins.flatMap fun j => aliasEntry j.table j.asName

def Block.aliases (b : Block) : List (Table × String) := aliasesOf b.table b.asName b.joins

end BoundSql
