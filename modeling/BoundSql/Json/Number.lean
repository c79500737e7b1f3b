import BoundSql.Decimal.Reader
import BoundSql.Json.Basic

/-!
# JSON numbers

A number without fraction and exponent is an integer, unless it is `-0`. Every other number is a
floating-point number: the digits that fit an unsigned 64-bit significand, the rest counted as zeros
before the point and dropped after it, times one power of ten. A number past the largest finite one
is refused.
-/

namespace BoundSql.Json

open Decimal

/-- The bound of a significand, which fits 64 bits. -/
def significandLimit : Nat := 0x10000000000000000

/-- Digits appended to a significand while it stays under the limit, and how many there were. -/
def appendDigits (significand taken : Nat) : List Char → Nat × Nat
  | [] => (significand, taken)
  | d :: ds =>
    let next := 10 * significand + (d.toNat - '0'.toNat)
    if next < significandLimit then appendDigits next (taken + 1) ds else (significand, taken)

/-- The largest power of ten that is finite. -/
def largestPower : Nat := 308

/-- The code of a power of ten, rounded to nearest. -/
def powerOfTen (n : Nat) : Nat := Format.double.nearest (Nat.pow 10 n) 1

/-- The code of a significand, which is a code itself, times a power of ten, with one multiplication
or with divisions only. Each of them rounds. -/
def scale (significand : Nat) (exponent : Int) : Option Nat :=
  if exponent.natAbs ≤ largestPower then
    if 0 ≤ exponent then
      let product := Format.double.multiply significand (powerOfTen exponent.natAbs)
      if product < Format.double.infinity then some product else none
    else some (Format.double.divide significand (powerOfTen exponent.natAbs))
  else if significand = 0 then some 0
  else if 0 ≤ exponent then none
  else scale (Format.double.divide significand (powerOfTen largestPower)) (exponent + largestPower)
termination_by exponent.natAbs
decreasing_by simp only [largestPower] at *; omega

/-- How the parts of a number become a floating-point number: its sign, the digits before and behind
the point, and the exponent. -/
abbrev Rounding := Bool → List Char → List Char → Int → Option Double

/-- The floating-point number of the parts of a number. -/
def floating? (negative : Bool) (whole fraction : List Char) (exponent : Int) : Option Double :=
  let (significand, taken) := appendDigits 0 0 whole
  let (significand, places) := appendDigits significand 0 fraction
  let exponent := exponent + (whole.length - taken : Nat) - places
  (scale (Format.double.nearest significand 1) exponent).map (Double.ofCode negative)

/-- The fraction behind a point, if the characters start with one. -/
def readFraction : List Char → Option (List Char × List Char)
  | '.' :: cs =>
    let (digits, rest) := cs.span Char.isDigit
    if digits.isEmpty then none else some (digits, rest)
  | cs => some ([], cs)

/-- The exponent, if the characters start with one. -/
def readExponent : List Char → Option (Option Int × List Char)
  | [] => some (none, [])
  | e :: cs =>
    if e == 'e' || e == 'E' then
      let (negative, cs) := splitSign cs
      let (digits, rest) := cs.span Char.isDigit
      let size : Int := ofDigits 0 digits
      if digits.isEmpty then none else some (some (if negative then -size else size), rest)
    else some (none, e :: cs)

/-- The whole digits of a number, without a zero in front of another digit. -/
def readWhole (cs : List Char) : Option (List Char × List Char) :=
  let (digits, rest) := cs.span Char.isDigit
  if digits.isEmpty || (digits.head? == some '0' && 1 < digits.length) then none
  else some (digits, rest)

/-- The number at the front of the characters, and what is behind it. -/
def readNumber (round : Rounding) (cs : List Char) : Option (Json × List Char) := do
  let (negative, cs) := match cs with
    | '-' :: r => (true, r)
    | r => (false, r)
  let (whole, cs) ← readWhole cs
  let (fraction, cs) ← readFraction cs
  let (exponent, cs) ← readExponent cs
  let size := ofDigits 0 whole
  if fraction.isEmpty && exponent.isNone && !(negative && size == 0) then
    return (.int (if negative then -size else size), cs)
  let x ← round negative whole fraction (exponent.getD 0)
  return (.float x, cs)

end BoundSql.Json
