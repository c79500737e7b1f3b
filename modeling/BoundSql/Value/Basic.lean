import BoundSql.Calendar.Timestamp
import BoundSql.Json.Basic
import BoundSql.Uuid

/-!
# Bound values

The values a statement binds. Integers of every width are kept in 64 bits.
-/

namespace BoundSql

/-- A value bound to a parameter. -/
inductive Value where
  | null
  | bool (b : Bool)
  | int (n : Int64)
  | float (x : Decimal.Double)
  | text (s : String)
  | bytes (b : List UInt8)
  | json (j : Json)
  /-- A moment in coordinated universal time. -/
  | instant (t : Calendar.Timestamp)
  /-- A moment on the clock of no particular time zone. -/
  | wallClock (t : Calendar.Timestamp)
  | date (d : Calendar.Date)
  | uuid (u : Uuid)

namespace Value

/-- An absent value is null. -/
def ofOption : Option Value → Value
  | none => .null
  | some v => v

def isNull : Value → Bool
  | .null => true
  | _ => false

def int? : Value → Option Int64
  | .int n => some n
  | _ => none

def text? : Value → Option String
  | .text s => some s
  | _ => none

/-- Equality of two values. Values of two kinds differ, and floating-point numbers compare as
numbers: NaN differs from itself, and the two zeros are equal. -/
def same : Value → Value → Bool
  | .null, .null => true
  | .bool a, .bool b => a == b
  | .int a, .int b => a == b
  | .float a, .float b => a.same b
  | .text a, .text b => a == b
  | .bytes a, .bytes b => a == b
  | .json a, .json b => a.same b
  | .instant a, .instant b => a == b
  | .wallClock a, .wallClock b => a == b
  | .date a, .date b => a == b
  | .uuid a, .uuid b => a == b
  | _, _ => false

end Value

end BoundSql
