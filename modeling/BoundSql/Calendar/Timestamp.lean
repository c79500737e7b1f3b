import BoundSql.Calendar.Date

/-!
# Timestamps

A timestamp is a date, a second of the day and the nanoseconds into it. A leap second is written as
the sixtieth second of its minute and kept as the second before it with a thousand million
nanoseconds more.
-/

namespace BoundSql.Calendar

/-- A moment on the clock, without a time zone. -/
structure Timestamp where
  date : Date
  /-- Seconds since midnight. -/
  second : Nat
  /-- Nanoseconds into the second, from a thousand million on in a leap second. -/
  nanosecond : Nat
  second_lt : second < 86400
  nanosecond_lt : nanosecond < 2000000000
  /-- Only the last second of a minute is followed by a leap second. -/
  leap : 1000000000 ≤ nanosecond → second % 60 = 59
  deriving DecidableEq

namespace Timestamp

/-- The moment of a number of seconds since 1970 and the nanoseconds into the second, if there is
such a moment. -/
def ofUnix? (seconds : Int) (nanosecond : Nat) : Option Timestamp := do
  let date ← Date.ofDay? (seconds / 86400)
  let second := (seconds % 86400).toNat
  if h : nanosecond < 2000000000 ∧ (1000000000 ≤ nanosecond → second % 60 = 59) then
    return ⟨date, second, nanosecond, by omega, h.1, h.2⟩
  else none

def unixSeconds (t : Timestamp) : Int := t.date.day * 86400 + t.second

/-- The fraction of a second, in the fewest of zero, three, six or nine digits that are exact. -/
def fractionText (nanosecond : Nat) : String :=
  if nanosecond = 0 then ""
  else if nanosecond % 1000000 = 0 then "." ++ padded 3 (nanosecond / 1000000)
  else if nanosecond % 1000 = 0 then "." ++ padded 6 (nanosecond / 1000)
  else "." ++ padded 9 nanosecond

/-- The time of day as `22:13:20.123`. -/
def timeText (t : Timestamp) : String :=
  padded 2 (t.second / 3600) ++ ":" ++ padded 2 (t.second / 60 % 60) ++ ":" ++
    padded 2 (t.second % 60 + t.nanosecond / 1000000000) ++
    fractionText (t.nanosecond % 1000000000)

/-- The date and the time with a separator between them. -/
def text (t : Timestamp) (separator : String) : String :=
  t.date.text ++ separator ++ t.timeText

end Timestamp

end BoundSql.Calendar
