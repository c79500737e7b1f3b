import BoundSql.Decimal.Double
import BoundSql.Decimal.Shortest

/-!
# Layouts of floating-point numbers

How the shortest digits of a number are written. The digits and their rule are one; a `Layout`
holds what differs from one output to another.
-/

namespace BoundSql.Decimal

/-- How the digits of a number are set. -/
structure Layout where
  tie : Tie
  /-- The places of the point, counted from before the first digit, that need no exponent. -/
  positional : Int → Bool
  /-- A number without a fraction ends in `.0`. -/
  pointZero : Bool
  notANumber : String
  positiveInfinity : String
  negativeInfinity : String

namespace Layout

/-- The digits with a point before the place `point`. -/
def setPoint (l : Layout) (digits : List Char) (point : Int) : List Char :=
  if digits.length ≤ point then
    digits ++ List.replicate (point - digits.length).toNat '0' ++
      (if l.pointZero then ['.', '0'] else [])
  else if 0 < point then
    digits.take point.toNat ++ '.' :: digits.drop point.toNat
  else
    '0' :: '.' :: List.replicate (-point).toNat '0' ++ digits

/-- The digits with a point after the first and a signed exponent. -/
def setExponent (digits : List Char) (point : Int) : List Char :=
  digits.take 1 ++ (if digits.length ≤ 1 then [] else '.' :: digits.drop 1) ++
    'e' :: (if point - 1 < 0 then '-' else '+') :: Nat.toDigits 10 (point - 1).natAbs

/-- The characters of a magnitude. -/
def magnitude (l : Layout) (n : Binary) : List Char :=
  let shortest := n.shortest l.tie
  let digits := Nat.toDigits 10 shortest.coefficient
  let point := digits.length + shortest.exponent
  if l.positional point then l.setPoint digits point else setExponent digits point

def text (l : Layout) (x : Double) : String :=
  match Format.double.parts x.code with
  | .notANumber _ => l.notANumber
  | .infinite => if x.negative then l.negativeInfinity else l.positiveInfinity
  | .finite n => String.ofList ((if x.negative then ['-'] else []) ++ l.magnitude n)

end Layout

end BoundSql.Decimal
