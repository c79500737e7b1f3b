import BoundSql.Json.Number

/-!
# Stored JSON

The form in which a JSON value is kept as a bound value. The members of an object are in the order
of their names, of two members of one name the later one counts, and integers outside 64 bits,
signed or unsigned, are floating-point numbers.
-/

namespace BoundSql.Json

/-- A member put into members that are in the order of their names; it replaces one of its name. -/
def putMember (name : String) (value : Json) : List (String × Json) → List (String × Json)
  | [] => [(name, value)]
  | (n, v) :: rest =>
    if name < n then (name, value) :: (n, v) :: rest
    else if name = n then (name, value) :: rest
    else (n, v) :: putMember name value rest

/-- An integer in 64 bits, or the floating-point number of its digits. -/
def storedInt? (n : Int) : Option Json :=
  if -0x8000000000000000 ≤ n ∧ n < 0x10000000000000000 then some (.int n)
  else (floating? (n < 0) (Nat.toDigits 10 n.natAbs) [] 0).map .float

mutual

/-- The value as it is stored, unless it holds an integer past the largest finite number. -/
def stored? : Json → Option Json
  | .int n => storedInt? n
  | .array items => do return .array (← storedItems? items)
  | .object members => do return .object (← storedMembers? members [])
  | .null => some .null
  | .bool b => some (.bool b)
  | .float x => some (.float x)
  | .text s => some (.text s)

def storedItems? : List Json → Option (List Json)
  | [] => some []
  | item :: items => do return (← stored? item) :: (← storedItems? items)

/-- The members put as they are stored into those before them. -/
def storedMembers? : List (String × Json) → List (String × Json) → Option (List (String × Json))
  | [], before => some before
  | (name, value) :: members, before => do
    storedMembers? members (putMember name (← stored? value) before)

end

end BoundSql.Json
