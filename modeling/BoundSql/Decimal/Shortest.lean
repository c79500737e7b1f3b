import BoundSql.Decimal.Binary

/-!
# Shortest digits

`Binary.shortest` is the decimal with the fewest digits among those that round back to a binary
number, and of these the nearest to it. Two decimals of one length can be equally near; a `Tie`
says which of them is taken.

The decimals that round back form an interval around the number. The search walks the grids
`10 ^ k` from a coarse one down and stops at the first grid with a point in the interval; such a
grid has one next to the number itself.
-/

namespace BoundSql.Decimal

/-- Which of two equally near decimals is taken. -/
inductive Tie where
  /-- The larger. -/
  | up
  /-- The one whose last digit is even. -/
  | even

/-- `coefficient · 10 ^ exponent`. -/
structure Digits where
  coefficient : Nat
  exponent : Int

/-- The nearer of two neighbours, by the distances down to the one below and up to the other. -/
def Tie.nearer (tie : Tie) (below down up : Nat) : Nat :=
  if down < up then below
  else if up < down then below + 1
  else match tie with
    | .up => below + 1
    | .even => if below % 2 = 0 then below else below + 1

namespace Binary

/-- A quarter of the mantissa's unit, in the measure in which a step of the grid `10 ^ k` is
`step`. -/
def quarter (n : Binary) (k : Int) : Nat :=
  Nat.pow 2 (n.exponent - 2).toNat * Nat.pow 10 (-k).toNat

def step (n : Binary) (k : Int) : Nat :=
  Nat.pow 2 (2 - n.exponent).toNat * Nat.pow 10 k.toNat

/-- The lower end of the interval, in quarters. -/
def low (n : Binary) : Nat := 4 * n.mantissa - if n.tight then 1 else 2

/-- The upper end. -/
def high (n : Binary) : Nat := 4 * n.mantissa + 2

/-- A point of the grid rounds back to the number. The ends round to the even mantissa. -/
def fits (n : Binary) (k : Int) (point : Nat) : Bool :=
  let place := point * n.step k
  let least := n.low * n.quarter k
  let greatest := n.high * n.quarter k
  0 < point && (least < place && place < greatest ||
    n.mantissa % 2 == 0 && (place == least || place == greatest))

/-- The point of the grid `10 ^ k` nearest to the number, if it rounds back to the number. -/
def onGrid (n : Binary) (tie : Tie) (k : Int) : Option Nat :=
  let place := 4 * n.mantissa * n.quarter k
  let below := place / n.step k
  match n.fits k below, n.fits k (below + 1) with
  | true, true =>
    some (tie.nearer below (place - below * n.step k) ((below + 1) * n.step k - place))
  | true, false => some below
  | false, true => some (below + 1)
  | false, false => none

/-- The first grid with a hit, from `10 ^ k` down over `fuel` grids. -/
def search (n : Binary) (tie : Tie) : Nat → Int → Digits
  | 0, _ => ⟨n.mantissa, 0⟩
  | fuel + 1, k =>
    match n.onGrid tie k with
    | some coefficient => ⟨coefficient, k⟩
    | none => n.search tie fuel (k - 1)

/-- An exponent of ten above the number, by at most three. -/
def decimalBound (n : Binary) : Int :=
  (Nat.toDigits 10 n.mantissa).length + Int.fdiv (n.exponent * 30103) 100000 + 2

/-- The shortest decimal that rounds to the number, and of these the nearest. -/
def shortest (n : Binary) (tie : Tie) : Digits :=
  if n.mantissa = 0 then ⟨0, 0⟩ else n.search tie 24 n.decimalBound

end Binary

end BoundSql.Decimal
