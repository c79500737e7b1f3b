import BoundSql.Schema.Table
import BoundSql.Scope
import BoundSql.Strategy
import BoundSql.Text.Quoted

/-!
# Columns

A column of a table, with an alias for select lists and a placeholder strategy of its own if it has
them. Two columns are the same when they are the same name in the same table.
-/

namespace BoundSql

structure Column where
  table : Table
  name : String
  dataType : DataType
  /-- The name under which a select list gives the column. -/
  asName : Option String := none
  /-- The strategy that writes the placeholders of values of this column. -/
  strategy : Option Strategy := none

namespace Column

def as (c : Column) (asName : String) : Column := { c with asName := some asName }

/-- The column with a strategy of its own. -/
def withStrategy (c : Column) (s : Strategy) : Column := { c with strategy := some s }

/-- The two are the same column. -/
def same (c d : Column) : Bool := c.table.same d.table && c.name == d.name

/-- The name behind the alias of its table, or alone if the table has none. -/
def qualified (c : Column) (scope : Scope) : String :=
  match scope.aliasOf c.table with
  | some asName => asName ++ "." ++ c.name
  | none => c.name

/-- The name by which rows are sorted. -/
def sortName (c : Column) : String := c.asName.getD c.name

/-- What diagnostics show. -/
def describe (c : Column) : String :=
  let asName := match c.asName with
    | some a => "Some(" ++ Text.quoted a ++ ")"
    | none => "None"
  let strategy := match c.strategy with
    | some s => "Some(" ++ s.label ++ ")"
    | none => "None"
  "ColumnRef \x7b table: " ++ Text.quoted c.table.name ++ ", name: " ++ Text.quoted c.name ++
    ", data_type: " ++ c.dataType.label ++ ", alias: " ++ asName ++
    ", rendering_strategy: " ++ strategy ++ " \x7d"

end Column

end BoundSql
