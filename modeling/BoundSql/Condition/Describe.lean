import BoundSql.Condition.Basic
import BoundSql.Value.Text

/-!
# Conditions in diagnostics

The text in which diagnostics show a condition: its operator, its operand with the values written
behind their kinds, and its marks.
-/

namespace BoundSql

def describeBool (b : Bool) : String := if b then "true" else "false"

def describeOption {α : Type} (describe : α → String) : Option α → String
  | none => "None"
  | some a => "Some(" ++ describe a ++ ")"

/-- A value behind its kind. -/
def Value.describe : Value → String
  | .null => "Null"
  | .bool b => "Bool(" ++ describeBool b ++ ")"
  | .int n => "Int(" ++ toString n.toInt ++ ")"
  | .text s => "Text(" ++ Text.quoted s ++ ")"
  | .float x => "Float(" ++ (Value.float x).display ++ ")"
  | .bytes b => "Bytes([" ++ String.intercalate ", " (b.map fun x => toString x.toNat) ++ "])"
  | .json j => "Json(" ++ j.print ++ ")"
  | .instant t => "Timestamp(" ++ t.text "T" ++ "Z)"
  | .wallClock t => "NaiveTimestamp(" ++ t.text "T" ++ ")"
  | .date d => "Date(" ++ d.text ++ ")"
  | .uuid u => "Uuid(" ++ u.text ++ ")"

variable {σ α : Type}

def Operand.describe (value : α → String) : Operand σ α → String
  | .noValue isOpen => "NoValue \x7b open: " ++ describeBool isOpen ++ " \x7d"
  | .single v => "Single(" ++ describeOption value v ++ ")"
  | .pair vs =>
    "Two(" ++ describeOption (fun (a, b) => "(" ++ value a ++ ", " ++ value b ++ ")") vs ++ ")"
  | .list vs => "List([" ++ String.intercalate ", " (vs.map value) ++ "])"
  | .column other => "Column(" ++ describeOption (fun c => Text.quoted c.name) other ++ ")"
  | .select query => "Select(" ++ describeBool query.isSome ++ ")"

def Condition.describe (value : α → String) (c : Condition σ α) : String :=
  "Condition \x7b operator: " ++ c.operator.label ++ ", value: " ++ c.operand.describe value ++
    ", upper_column: " ++ describeBool c.upperColumn ++
    ", empty_callback: " ++ describeBool c.onEmptyList.isSome ++ " \x7d"

end BoundSql
