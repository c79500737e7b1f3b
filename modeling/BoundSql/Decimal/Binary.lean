/-!
# Binary floating-point formats

A finite number is `mantissa · 2 ^ exponent` in a format of fixed precision, and a `Format` encodes
it, its sign left out, as a natural number: the codes of the finite numbers come first and in their
order, then that of infinity, then those of NaN. `Format.nearest` is the number of the format
nearest to a quotient, ties to the even mantissa, `Format.parts` takes a code apart, and
`Format.convert` carries a code from one format to another.
-/

namespace BoundSql.Decimal

/-- A binary interchange format with `precision` bits of mantissa. -/
structure Format where
  precision : Nat
  /-- The exponent of the least significant bit of the smallest numbers. -/
  leastExponent : Int
  /-- The code of infinity, the first one past the finite numbers. -/
  infinity : Nat
  /-- What a minus sign adds to a code. -/
  signBit : Nat

namespace Format

def double : Format := ⟨53, -1074, 0x7ff0000000000000, 0x8000000000000000⟩

def single : Format := ⟨24, -149, 0x7f800000, 0x80000000⟩

/-- The encoding of a number with its sign. -/
def encode (f : Format) (negative : Bool) (code : Nat) : Nat :=
  if negative then f.signBit + code else code

end Format

/-- The quotient rounded to the nearest natural number, a half to the even neighbour. -/
def roundHalfEven (num den : Nat) : Nat :=
  let q := num / den
  let twice := 2 * (num % den)
  if twice < den then q else if den < twice then q + 1 else q + q % 2

/-- `num / den` times a power of two, as a quotient of natural numbers. -/
def scaleBinary (num den : Nat) (power : Int) : Nat × Nat :=
  (num * Nat.pow 2 power.toNat, den * Nat.pow 2 (-power).toNat)

/-- The exponent of the format in which a positive quotient has a full mantissa, or the least. -/
def Format.exponentOf (f : Format) (num den : Nat) : Int :=
  let guess := (num.log2 : Int) - den.log2 - f.precision
  let (a, b) := scaleBinary num den (-guess)
  max f.leastExponent (if a < b * Nat.pow 2 f.precision then guess else guess + 1)

/-- The code of the number of the format nearest to `num / den`. -/
def Format.nearest (f : Format) (num den : Nat) : Nat :=
  if num = 0 ∨ den = 0 then 0 else
  let e := f.exponentOf num den
  let (a, b) := scaleBinary num den (-e)
  min f.infinity
    ((e - f.leastExponent).toNat * Nat.pow 2 (f.precision - 1) + roundHalfEven a b)

/-- A finite number's magnitude. -/
structure Binary where
  mantissa : Nat
  exponent : Int
  /-- The neighbour below is half as far away as the one above. -/
  tight : Bool

/-- The magnitude as a quotient of natural numbers. -/
def Binary.quotient (n : Binary) : Nat × Nat := scaleBinary n.mantissa 1 n.exponent

/-- A code, taken apart. -/
inductive Parts where
  | finite (magnitude : Binary)
  | infinite
  /-- The payload is what the code holds past that of infinity. -/
  | notANumber (payload : Nat)

def Format.parts (f : Format) (code : Nat) : Parts :=
  let unit := Nat.pow 2 (f.precision - 1)
  let biased := code / unit
  let fraction := code % unit
  if f.infinity < code then .notANumber (code - f.infinity)
  else if code = f.infinity then .infinite
  else if biased = 0 then .finite ⟨fraction, f.leastExponent, false⟩
  else .finite ⟨unit + fraction, f.leastExponent + biased - 1, fraction == 0 && 1 < biased⟩

/-- The number of a finite code, as a quotient of natural numbers. -/
def Format.quotient (f : Format) (code : Nat) : Nat × Nat :=
  match f.parts code with
  | .finite n => n.quotient
  | _ => (0, 1)

/-- The product of two finite numbers, rounded to nearest. -/
def Format.multiply (f : Format) (x y : Nat) : Nat :=
  let (a, b) := f.quotient x
  let (c, d) := f.quotient y
  f.nearest (a * c) (b * d)

/-- The quotient of two finite numbers, rounded to nearest. -/
def Format.divide (f : Format) (x y : Nat) : Nat :=
  let (a, b) := f.quotient x
  let (c, d) := f.quotient y
  f.nearest (a * d) (b * c)

/-- The code of NaN with the leading bits of a payload of `precision` bits, made quiet. -/
def Format.quiet (f : Format) (precision payload : Nat) : Nat :=
  let leading :=
    payload * Nat.pow 2 (f.precision - precision) / Nat.pow 2 (precision - f.precision)
  let quietBit := Nat.pow 2 (f.precision - 2)
  f.infinity + quietBit + leading % quietBit

/-- A code of one format in another: the nearest number, infinity, or NaN. -/
def Format.convert (f target : Format) (code : Nat) : Nat :=
  match f.parts code with
  | .finite n => target.nearest n.quotient.1 n.quotient.2
  | .infinite => target.infinity
  | .notANumber payload => target.quiet f.precision payload

end BoundSql.Decimal
