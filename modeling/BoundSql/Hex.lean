/-!
# Hexadecimal text

Bytes as two hexadecimal digits each. Writing uses lower case; reading takes either case.
-/

namespace BoundSql.Hex

/-- The value of a hexadecimal digit. -/
def value? (c : Char) : Option Nat :=
  if c.isDigit then some (c.toNat - '0'.toNat)
  else if 'a' ≤ c ∧ c ≤ 'f' then some (c.toNat - 'a'.toNat + 10)
  else if 'A' ≤ c ∧ c ≤ 'F' then some (c.toNat - 'A'.toNat + 10)
  else none

/-- The digits of a byte. -/
def ofByte (b : UInt8) : List Char :=
  [Nat.digitChar (b.toNat / 16), Nat.digitChar (b.toNat % 16)]

def text (bytes : List UInt8) : String :=
  String.ofList (bytes.flatMap ofByte)

/-- The bytes of pairs of digits. -/
def read? : List Char → Option (List UInt8)
  | [] => some []
  | [_] => none
  | a :: b :: rest => do
    let high ← value? a
    let low ← value? b
    let bytes ← read? rest
    return UInt8.ofNat (high * 16 + low) :: bytes

end BoundSql.Hex
