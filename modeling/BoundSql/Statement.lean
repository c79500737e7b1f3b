import BoundSql.Query

/-!
# Statements

The models of all kinds of statements. A model says what is written and what is bound, and nothing
of placeholders.
-/

namespace BoundSql

/-- What a column is set to. -/
inductive Assigned where
  | null
  /-- A text that is written as it is. -/
  | constant (text : String)
  /-- A text that is written as a string literal. -/
  | stringConstant (text : String)
  /-- A value that is bound. -/
  | value (v : Value)
  | column (other : Column)

/-- A column and what it is set to. -/
structure Assignment where
  column : Column
  value : Assigned

structure Insert where
  table : Table
  assignments : List Assignment

/-- An insert of several rows over the same columns. -/
structure MultiInsert where
  table : Table
  columns : List Column
  rows : List (List Assigned)
  /-- The columns whose generated values come back. -/
  returning : List Column

structure Update where
  table : Table
  assignments : List Assignment
  criteria : List Criterion

structure Delete where
  table : Table
  criteria : List Criterion

inductive Statement where
  | select (s : Select)
  | insert (i : Insert)
  | insertMultiple (i : MultiInsert)
  | update (u : Update)
  | delete (d : Delete)

inductive StatementKind where
  | select | insert | insertMultiple | update | delete
  deriving DecidableEq

namespace StatementKind

/-- The name diagnostics show. -/
def label : StatementKind → String
  | .select => "Select"
  | .insert => "Insert"
  | .insertMultiple => "InsertMultiple"
  | .update => "Update"
  | .delete => "Delete"

/-- The name in a written statement. -/
def text : StatementKind → String
  | .select => "select"
  | .insert => "insert"
  | .insertMultiple => "insert_multiple"
  | .update => "update"
  | .delete => "delete"

def all : List StatementKind := [.select, .insert, .insertMultiple, .update, .delete]

def ofLabel? (label : String) : Option StatementKind := all.find? fun k => k.label == label

/-- Reading a name gives back what it names. -/
theorem ofLabel?_label (k : StatementKind) : ofLabel? k.label = some k := by
  cases k <;> rfl

end StatementKind

namespace Statement

def kind : Statement → StatementKind
  | .select _ => .select
  | .insert _ => .insert
  | .insertMultiple _ => .insertMultiple
  | .update _ => .update
  | .delete _ => .delete

/-- The names of the columns whose generated values come back. -/
def generatedKeys : Statement → List String
  | .insertMultiple i => i.returning.map Column.name
  | _ => []

end Statement

end BoundSql
