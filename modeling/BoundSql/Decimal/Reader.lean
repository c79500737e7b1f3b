import BoundSql.Decimal.Double

/-!
# Reading floating-point numbers

A number is an optional sign, digits with at most one point among or around them, and an optional
exponent; `inf`, `infinity` and `nan` are read in any case. The result is the number of the format
nearest to the decimal.
-/

namespace BoundSql.Decimal

/-- The value of a run of decimal digits that follows one of value `start`. -/
def ofDigits (start : Nat) (digits : List Char) : Nat :=
  digits.foldl (fun n c => 10 * n + (c.toNat - '0'.toNat)) start

/-- A sign in front, taken off. -/
def splitSign : List Char → Bool × List Char
  | '-' :: cs => (true, cs)
  | '+' :: cs => (false, cs)
  | cs => (false, cs)

/-- The exponent that ends a number, zero if nothing is left. -/
def readExponent : List Char → Option Int
  | [] => some 0
  | e :: cs =>
    let (negative, digits) := splitSign cs
    if (e == 'e' || e == 'E') && !digits.isEmpty && digits.all Char.isDigit then
      some (if negative then -(ofDigits 0 digits : Int) else ofDigits 0 digits)
    else none

/-- An unsigned decimal as a coefficient and a power of ten. -/
def readUnsigned (cs : List Char) : Option (Nat × Int) :=
  let (whole, rest) := cs.span Char.isDigit
  let (fraction, rest) := match rest with
    | '.' :: r => r.span Char.isDigit
    | r => ([], r)
  if whole.isEmpty && fraction.isEmpty then none else do
    let exponent ← readExponent rest
    return (ofDigits (ofDigits 0 whole) fraction, exponent - fraction.length)

/-- The code of the number nearest to `coefficient · 10 ^ exponent`. -/
def Format.ofScientific (f : Format) (coefficient : Nat) (exponent : Int) : Nat :=
  let size := (Nat.toDigits 10 coefficient).length + exponent
  if coefficient = 0 ∨ size < -400 then 0
  else if 400 < size then f.infinity
  else f.nearest (coefficient * Nat.pow 10 exponent.toNat) (Nat.pow 10 (-exponent).toNat)

/-- The sign and the code of a written number. -/
def Format.read? (f : Format) (text : String) : Option (Bool × Nat) :=
  let (negative, cs) := splitSign text.toList
  match String.ofList (cs.map Char.toLower) with
  | "inf" | "infinity" => some (negative, f.infinity)
  | "nan" => some (negative, f.quiet f.precision 0)
  | _ => (readUnsigned cs).map fun (coefficient, exponent) =>
      (negative, f.ofScientific coefficient exponent)

/-- The double-precision number nearest to a written number. -/
def readDouble? (text : String) : Option Double :=
  (Format.double.read? text).map fun (negative, code) => Double.ofCode negative code

/-- The single-precision number nearest to a written number, as a double-precision one. -/
def readSingle? (text : String) : Option Double :=
  (Format.single.read? text).map fun (negative, code) => Double.ofSingle negative code

end BoundSql.Decimal
