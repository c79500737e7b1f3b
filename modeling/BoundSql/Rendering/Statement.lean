import BoundSql.Rendering.Query

/-!
# Rendering statements

The text and parameters of inserts, updates and deletes, and of a statement of any kind.
-/

namespace BoundSql.Rendering

/-- What a column is set to. Only a value is bound. -/
def renderAssigned (config : Config) (scope : Scope) (column : Column) :
    Assigned → Rendering Fragment
  | .null => return .ofText "null"
  | .constant text => return .ofText text
  | .stringConstant text => return .ofText (Text.literal text)
  | .value v => bindFragment config (some column) v
  | .column other => return .ofText (other.qualified scope)

/-- The names of columns as a list. -/
def columnList (columns : List Column) : String :=
  String.intercalate ", " (columns.map Column.name)

/-- The start of an insert. -/
def insertHead (table : Table) (columns : List Column) : String :=
  "insert into " ++ table.name ++ " (" ++ columnList columns ++ ") "

def renderInsert (config : Config) (scope : Scope) (i : Insert) : Rendering Fragment := do
  let values ← collect .empty
    (i.assignments.map fun a => renderAssigned config scope a.column a.value)
  return (values.wrapped ", " "values (" ")").after
    (insertHead i.table (i.assignments.map Assignment.column))

/-- One row of an insert. -/
def renderRow (config : Config) (scope : Scope) (columns : List Column) (row : List Assigned) :
    Rendering Fragment := do
  let values ← collect .empty
    (List.zipWith (fun column value => renderAssigned config scope column value) columns row)
  return values.wrapped ", " "(" ")"

/-- The clause for the columns whose generated values come back. -/
def returningText (columns : List Column) : String :=
  if columns.isEmpty then "" else " returning " ++ columnList columns

def renderMultiInsert (config : Config) (scope : Scope) (i : MultiInsert) :
    Rendering Fragment := do
  let rows ← collect .empty (i.rows.map (renderRow config scope i.columns))
  return (rows.wrapped ", " "values " (returningText i.returning)).after
    (insertHead i.table i.columns)

def renderAssignment (config : Config) (scope : Scope) (a : Assignment) : Rendering Fragment := do
  let value ← renderAssigned config scope a.column a.value
  return value.after (a.column.name ++ " = ")

/-- A fragment with the `where` clause of criteria behind it. -/
def withWhere (config : Config) (scope : Scope) (fragment : Fragment)
    (criteria : List Criterion) : Rendering Fragment := do
  match ← renderWhere config scope criteria with
  | none => return fragment
  | some clause => return (← Collector.ofList [fragment, clause]).join " "

def renderUpdate (config : Config) (scope : Scope) (u : Update) : Rendering Fragment := do
  let assignments ← collect .empty (u.assignments.map (renderAssignment config scope))
  let head := (assignments.join ", ").after ("update " ++ u.table.name ++ " set ")
  withWhere config scope head u.criteria

def renderDelete (config : Config) (scope : Scope) (d : Delete) : Rendering Fragment :=
  withWhere config scope (.ofText ("delete from " ++ d.table.name)) d.criteria

def renderStatement (config : Config) (scope : Scope) : Statement → Rendering Fragment
  | .select s => renderSelect config scope s
  | .insert i => renderInsert config scope i
  | .insertMultiple i => renderMultiInsert config scope i
  | .update u => renderUpdate config scope u
  | .delete d => renderDelete config scope d

end BoundSql.Rendering
