/-!
# Dates

A date is a day of the proleptic Gregorian calendar, kept as the number of days since the first of
January 1970. `Date.ofCivil?` and `Date.civil` convert between the number and year, month and day;
both count in years that begin in March, so that the leap day is the last of its year.
-/

namespace BoundSql.Calendar

/-- A number in decimal with zeros in front up to the given width. -/
def padded (width n : Nat) : String :=
  let digits := Nat.toDigits 10 n
  String.ofList (List.replicate (width - digits.length) '0' ++ digits)

/-- A day of the proleptic Gregorian calendar, from the first day of the year -262143 to the last of
the year 262142. -/
structure Date where
  /-- Days since the first of January 1970. -/
  day : Int
  least_le : -96465292 ≤ day
  le_greatest : day ≤ 95026236
  deriving DecidableEq

namespace Date

/-- The days from the first of March of the year zero to the first of January 1970. -/
def epoch : Int := 719468

/-- The number of days from the first of January 1970 to a year, month and day of the month. -/
def dayNumber (year : Int) (month dayOfMonth : Nat) : Int :=
  let y := if month ≤ 2 then year - 1 else year
  let era := y / 400
  let yearOfEra := y % 400
  let m : Int := (month + 9) % 12
  let dayOfYear := (153 * m + 2) / 5 + dayOfMonth - 1
  era * 146097 + yearOfEra * 365 + yearOfEra / 4 - yearOfEra / 100 + dayOfYear - epoch

def isLeapYear (year : Int) : Bool :=
  year % 4 == 0 && (year % 100 != 0 || year % 400 == 0)

def monthLength (year : Int) (month : Nat) : Nat :=
  if month = 2 then (if isLeapYear year then 29 else 28)
  else if month = 4 ∨ month = 6 ∨ month = 9 ∨ month = 11 then 30
  else 31

def ofDay? (day : Int) : Option Date :=
  if h : -96465292 ≤ day ∧ day ≤ 95026236 then some ⟨day, h.1, h.2⟩ else none

/-- The day of a year, month and day of the month, if there is such a day. -/
def ofCivil? (year : Int) (month dayOfMonth : Nat) : Option Date :=
  if 1 ≤ month ∧ month ≤ 12 ∧ 1 ≤ dayOfMonth ∧ dayOfMonth ≤ monthLength year month then
    ofDay? (dayNumber year month dayOfMonth)
  else none

def civil (d : Date) : Int × Nat × Nat :=
  let z := d.day + epoch
  let era := z / 146097
  let dayOfEra := (z % 146097).toNat
  let yearOfEra :=
    (dayOfEra - dayOfEra / 1460 + dayOfEra / 36524 - dayOfEra / 146096) / 365
  let dayOfYear := dayOfEra - (365 * yearOfEra + yearOfEra / 4 - yearOfEra / 100)
  let m := (5 * dayOfYear + 2) / 153
  let month := if m < 10 then m + 3 else m - 9
  (era * 400 + yearOfEra + (if month ≤ 2 then 1 else 0), month, dayOfYear - (153 * m + 2) / 5 + 1)

/-- A year has at least four digits, and a sign outside the years from 0 to 9999. -/
def yearText (year : Int) : String :=
  if year < 0 then "-" ++ padded 4 year.natAbs
  else if year ≤ 9999 then padded 4 year.natAbs
  else "+" ++ padded 4 year.natAbs

/-- The date as `2000-01-31`. -/
def text (d : Date) : String :=
  let (year, month, dayOfMonth) := d.civil
  yearText year ++ "-" ++ padded 2 month ++ "-" ++ padded 2 dayOfMonth

end Date

end BoundSql.Calendar
