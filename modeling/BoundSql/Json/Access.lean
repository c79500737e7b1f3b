import BoundSql.Json.Basic

/-!
# Looking into JSON values

Each function gives what it is named for, if the value holds it.
-/

namespace BoundSql.Json

/-- The member of an object under a name, the last one if there are several. -/
def get? (j : Json) (name : String) : Option Json :=
  match j with
  | .object members => members.reverse.lookup name
  | _ => none

def text? : Json → Option String
  | .text s => some s
  | _ => none

def int? : Json → Option Int
  | .int n => some n
  | _ => none

def nat? (j : Json) : Option Nat := j.int?.bind Int.toNat?

def bool? : Json → Option Bool
  | .bool b => some b
  | _ => none

def items? : Json → Option (List Json)
  | .array items => some items
  | _ => none

def members? : Json → Option (List (String × Json))
  | .object members => some members
  | _ => none

/-- The value, unless it is null. -/
def nonNull? : Json → Option Json
  | .null => none
  | j => some j

end BoundSql.Json
