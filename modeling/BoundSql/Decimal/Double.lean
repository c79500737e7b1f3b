import BoundSql.Decimal.Binary

/-!
# Double-precision numbers

A `Double` is a number of the double-precision format with its sign, as it is stored: the two zeros
differ, and a NaN has a sign and a payload. `Double.same` compares as numbers.
-/

namespace BoundSql.Decimal

/-- A double-precision number. -/
structure Double where
  negative : Bool
  /-- The code in the double-precision format. -/
  code : Nat
  code_lt : code < 0x8000000000000000
  deriving DecidableEq

namespace Double

/-- The number of a sign and a code. -/
def ofCode (negative : Bool) (code : Nat) : Double :=
  ⟨negative, code % 0x8000000000000000, Nat.mod_lt _ (by decide)⟩

/-- The number of a sign and a single-precision code. -/
def ofSingle (negative : Bool) (code : Nat) : Double :=
  ofCode negative (Format.single.convert .double code)

/-- The code in the single-precision format, after rounding. -/
def singleCode (x : Double) : Nat := Format.double.convert .single x.code

/-- The number with the other sign. -/
def negate (x : Double) : Double := { x with negative := !x.negative }

def isNaN (x : Double) : Bool := Format.double.infinity < x.code

/-- Equality as numbers: NaN differs from itself, and the two zeros are equal. -/
def same (x y : Double) : Bool :=
  !x.isNaN && !y.isNaN && x.code == y.code && (x.negative == y.negative || x.code == 0)

/-- The stored form, in 64 bits. -/
def bits (x : Double) : Nat := Format.double.encode x.negative x.code

/-- The stored form in single precision, in 32 bits. -/
def singleBits (x : Double) : Nat := Format.single.encode x.negative x.singleCode

end Double

end BoundSql.Decimal
