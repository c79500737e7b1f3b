import BoundSql.Json.Printer
import BoundSql.Value.Basic

/-!
# The text of a value

`Value.display` is the text that people read, and `Value.toJson` the JSON value that a value becomes
in a written statement, where its kind is no longer told.
-/

namespace BoundSql.Value

/-- Numbers are always positional, and a whole number has no point. -/
def floatLayout : Decimal.Layout where
  tie := .up
  positional _ := true
  pointZero := false
  notANumber := "NaN"
  positiveInfinity := "inf"
  negativeInfinity := "-inf"

/-- The text that people read. -/
def display : Value → String
  | .null => "null"
  | .bool b => if b then "true" else "false"
  | .int n => toString n.toInt
  | .float x => floatLayout.text x
  | .text s => "'" ++ s ++ "'"
  | .bytes b => "<" ++ toString b.length ++ " bytes>"
  | .json j => j.print
  | .instant t => t.text " " ++ " UTC"
  | .wallClock t => t.text " "
  | .date d => d.text
  | .uuid u => u.text

/-- The JSON value, without the kind. -/
def toJson : Value → Json
  | .null => .null
  | .bool b => .bool b
  | .int n => .int n.toInt
  | .float x => .float x
  | .text s => .text s
  | .bytes b => .array (b.map fun x => .int x.toNat)
  | .json j => j
  | .instant t => .text (t.text "T" ++ "Z")
  | .wallClock t => .text (t.text "T")
  | .date d => .text d.text
  | .uuid u => .text u.text

end BoundSql.Value
