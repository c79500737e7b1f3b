import BoundSql.Calendar.Timestamp
import BoundSql.Proofs.CharacterRuns
import Mathlib.Algebra.Group.Nat.Defs

/-!
# Written dates and moments are read back

`Date.read?` and `Timestamp.read?` take a date and a moment off the front of their text: a year with
its sign, then every other number in its own number of digits. No day is lost on the way through
year, month and day (`Date.ofCivil?_civil`), so each text is read back as what it was written for
(`Date.read?_text`, `Timestamp.read?_text`).
-/

namespace BoundSql.Calendar

namespace Date

/-! ## Days, and the years and months they are in -/

/-- Every 1460 days of an era hold a leap day, but for the last of a century. -/
theorem yearOfEra_eq {n b q t : Nat} (whole : n = 36524 * b + 1461 * q + t) (century : b < 4)
    (cycle : q ≤ 24) (day : t ≤ 1460) (short : q = 24 → t < 1460) :
    (n - n / 1460 + n / 36524 - n / 146096) / 365 = 100 * b + 4 * q + min 3 (t / 365) := by
  have centuries : n / 36524 = b := by omega
  have last : n / 146096 = 0 := by omega
  have cycles : n / 1460 = 25 * b + q + (24 * b + q + t) / 1460 := by omega
  -- where the days left over make one more cycle, they are of its last year
  have carried : (24 * b + q + t) / 1460 = 0 ∧ t < 1460 ∨
      (24 * b + q + t) / 1460 = 1 ∧ 1095 < t := by
    omega
  rw [centuries, last, cycles]
  rcases carried with ⟨carry, -⟩ | ⟨carry, -⟩ <;> rw [carry] <;> omega

/-- A day of an era is one of the 365 days of its year, or the leap day that ends a leap year. -/
theorem exists_yearOfEra {n : Nat} (inside : n < 146097) :
    ∃ y r, (n - n / 1460 + n / 36524 - n / 146096) / 365 = y ∧ y < 400 ∧
      n = 365 * y + y / 4 - y / 100 + r ∧ r < 366 ∧
      (r = 365 → (y + 1) % 4 = 0 ∧ ((y + 1) % 100 ≠ 0 ∨ (y + 1) % 400 = 0)) := by
  by_cases last : n = 146096
  · subst last
    exact ⟨399, 365, rfl, by omega, by omega, by omega, by omega⟩
  · obtain ⟨b, s, century, rest, whole⟩ : ∃ b s, b < 4 ∧ s < 36524 ∧ n = 36524 * b + s :=
      ⟨n / 36524, n % 36524, by omega, by omega, by omega⟩
    obtain ⟨q, t, parts, day⟩ : ∃ q t, s = 1461 * q + t ∧ t ≤ 1460 :=
      ⟨s / 1461, s % 1461, by omega, by omega⟩
    have year := yearOfEra_eq (n := n) (b := b) (q := q) (t := t) (by omega) century (by omega) day
      (by omega)
    obtain ⟨k, three, least⟩ : ∃ k, k ≤ 3 ∧ min 3 (t / 365) = k := ⟨_, by omega, rfl⟩
    rw [least] at year
    have fours : (100 * b + 4 * q + k) / 4 = 25 * b + q := by omega
    have hundreds : (100 * b + 4 * q + k) / 100 = b := by omega
    refine ⟨_, t - 365 * k, year, by omega, ?_, by omega, fun leap => ?_⟩
    · rw [fours, hundreds]
      omega
    · have fourth : k = 3 := by omega
      omega

/-- The month of the year that is so many months behind March. -/
def fromMarch (m : Nat) : Nat := if m < 10 then m + 3 else m - 9

/-- The month of each day of a year that begins in March, where the year 0 stands for the years that
end with a leap day and the year 1 for the others. -/
theorem month_bounds : ∀ r < 366, ∃ m < 12, (5 * r + 2) / 153 = m ∧ (153 * m + 2) / 5 ≤ r ∧
    r - (153 * m + 2) / 5 < monthLength (if r = 365 then 0 else 1) (fromMarch m) := by
  decide +kernel

theorem isLeapYear_iff {year : Int} :
    isLeapYear year = true ↔ year % 4 = 0 ∧ (year % 100 ≠ 0 ∨ year % 400 = 0) := by
  simp [isLeapYear]

theorem monthLength_le {a b : Int} (leap : isLeapYear a = true → isLeapYear b = true)
    (month : Nat) : monthLength a month ≤ monthLength b month := by
  unfold monthLength
  split
  · split
    · next h => exact Nat.le_of_eq (if_pos (leap h)).symm
    · split <;> omega
  · exact Nat.le_refl _

theorem dayNumber_eq (era : Int) {y r m : Nat} (century : y < 400) (short : m < 12)
    (before : (153 * m + 2) / 5 ≤ r) :
    dayNumber (era * 400 + y + if fromMarch m ≤ 2 then 1 else 0) (fromMarch m)
        (r - (153 * m + 2) / 5 + 1) =
      era * 146097 + (365 * y + y / 4 - y / 100 + r : Nat) - epoch := by
  have eras : (era * 400 + y) / 400 = era := by omega
  have years : (era * 400 + y) % 400 = y := by omega
  by_cases spring : m < 10
  · have late : ¬ m + 3 ≤ 2 := by omega
    have month : ((m + 3 : Nat) + 9 : Int) % 12 = m := by omega
    simp only [fromMarch, dayNumber, if_pos spring, if_neg late, Int.add_zero, eras, years, month]
    omega
  · have early : m - 9 ≤ 2 := by omega
    have month : ((m - 9 : Nat) + 9 : Int) % 12 = m := by omega
    simp only [fromMarch, dayNumber, if_neg spring, if_pos early, Int.add_sub_cancel, eras, years,
      month]
    omega

/-- The year, month and day of a date are those of no other date. -/
theorem ofCivil?_civil (d : Date) : ofCivil? d.civil.1 d.civil.2.1 d.civil.2.2 = some d := by
  obtain ⟨y, r, years, century, whole, inside, leap⟩ :=
    exists_yearOfEra (n := ((d.day + epoch) % 146097).toNat) (by omega)
  obtain ⟨m, short, months, before, behind⟩ := month_bounds r inside
  have days : ((d.day + epoch) % 146097).toNat - (365 * y + y / 4 - y / 100) = r := by omega
  have civil : d.civil = ((d.day + epoch) / 146097 * 400 + y +
      (if fromMarch m ≤ 2 then 1 else 0), fromMarch m, r - (153 * m + 2) / 5 + 1) := by
    simp only [Date.civil, years, days, months]
    rfl
  have number : dayNumber d.civil.1 d.civil.2.1 d.civil.2.2 = d.day := by
    rw [civil, dayNumber_eq _ century short before]
    omega
  have month : 1 ≤ d.civil.2.1 ∧ d.civil.2.1 ≤ 12 := by
    rw [civil]
    simp only [fromMarch]
    split <;> omega
  have leapYear : isLeapYear (if r = 365 then 0 else 1) = true → isLeapYear d.civil.1 = true := by
    intro ofLeap
    by_cases last : r = 365
    · obtain rfl : m = 11 := by omega
      have fourth := leap last
      rw [civil, isLeapYear_iff]
      simp only [fromMarch, Nat.reduceLT, reduceIte, Nat.reduceSub, Nat.reduceLeDiff]
      omega
    · rw [if_neg last] at ofLeap
      cases ofLeap
  have length : d.civil.2.2 ≤ monthLength d.civil.1 d.civil.2.1 := by
    refine Nat.le_trans ?_ (monthLength_le leapYear _)
    rw [civil]
    exact behind
  have first : 1 ≤ d.civil.2.2 := by
    rw [civil]
    exact Nat.succ_pos _
  rw [ofCivil?, if_pos ⟨month.1, month.2, first, length⟩, number]
  exact dif_pos ⟨d.least_le, d.le_greatest⟩

end Date

/-! ## Numbers with zeros in front -/

section Padded

variable {width n : Nat}

theorem toList_padded (width n : Nat) : (padded width n).toList =
    List.replicate (width - (Nat.toDigits 10 n).length) '0' ++ Nat.toDigits 10 n :=
  String.toList_ofList

theorem ofDigits_padded (width n : Nat) : Decimal.ofDigits 0 (padded width n).toList = n := by
  have zeros (k : Nat) : Decimal.ofDigits 0 (List.replicate k '0') = 0 :=
    Nat.ofDigitChars_replicate_zero
  rw [toList_padded, Decimal.ofDigits, List.foldl_append]
  exact (congrArg (Decimal.ofDigits · _) (zeros _)).trans (ofDigits_toDigits n)

theorem isDigit_of_mem_padded {c : Char} (mem : c ∈ (padded width n).toList) :
    c.isDigit = true := by
  rw [toList_padded, List.mem_append] at mem
  rcases mem with zero | digit
  · rw [List.eq_of_mem_replicate zero]
    rfl
  · exact Nat.isDigit_of_mem_toDigits (by decide) (by decide) digit

theorem le_length_padded (width n : Nat) : width ≤ (padded width n).toList.length := by
  rw [toList_padded, List.length_append, List.length_replicate]
  omega

theorem length_padded (positive : 0 < width) (fits : n < 10 ^ width) :
    (padded width n).toList.length = width := by
  have digits := (Nat.length_toDigits_le_iff (by decide) positive).mpr fits
  rw [toList_padded, List.length_append, List.length_replicate]
  omega

theorem span_padded_append (width n : Nat) {rest : List Char} (stops : Stops Char.isDigit rest) :
    ((padded width n).toList ++ rest).span Char.isDigit = ((padded width n).toList, rest) :=
  span_append_of_stops (fun _ => isDigit_of_mem_padded) stops

/-- The number of so many digits behind a separator, and what is behind them. -/
def readPart? (separator : Char) (width : Nat) : List Char → Option (Nat × List Char)
  | [] => none
  | c :: cs =>
    let digits := cs.take width
    if c = separator ∧ digits.length = width ∧ digits.all Char.isDigit then
      some (Decimal.ofDigits 0 digits, cs.drop width)
    else none

theorem readPart?_padded (separator : Char) (positive : 0 < width) (fits : n < 10 ^ width)
    (rest : List Char) :
    readPart? separator width (separator :: ((padded width n).toList ++ rest)) =
      some (n, rest) := by
  have length := length_padded positive fits
  have front : ((padded width n).toList ++ rest).take width = (padded width n).toList :=
    List.take_left' length
  have behind : ((padded width n).toList ++ rest).drop width = rest := List.drop_left' length
  have digits : (padded width n).toList.all Char.isDigit = true :=
    List.all_eq_true.mpr fun _ => isDigit_of_mem_padded
  rw [readPart?, front, behind, ofDigits_padded]
  exact if_pos ⟨rfl, length, digits⟩

end Padded

/-! ## Dates -/

namespace Date

/-- A year of at least four digits, which may have a sign. -/
def readYear? (cs : List Char) : Option (Int × List Char) :=
  let (negative, cs) := Decimal.splitSign cs
  let (digits, rest) := cs.span Char.isDigit
  let size : Int := Decimal.ofDigits 0 digits
  if digits.length < 4 then none else some (if negative then -size else size, rest)

/-- The date in front, and what is behind it. -/
def read? (cs : List Char) : Option (Date × List Char) := do
  let (year, cs) ← readYear? cs
  let (month, cs) ← readPart? '-' 2 cs
  let (dayOfMonth, cs) ← readPart? '-' 2 cs
  return (← ofCivil? year month dayOfMonth, cs)

theorem splitSign_padded (n : Nat) (rest : List Char) :
    Decimal.splitSign ((padded 4 n).toList ++ rest) = (false, (padded 4 n).toList ++ rest) := by
  have long := le_length_padded 4 n
  rcases digits : (padded 4 n).toList with _ | ⟨c, cs⟩
  · rw [digits] at long
    contradiction
  · have mem : c ∈ (padded 4 n).toList := by
      rw [digits]
      exact List.mem_cons_self
    have digit := isDigit_of_mem_padded mem
    have minus : c ≠ '-' := by rintro rfl; cases digit
    have plus : c ≠ '+' := by rintro rfl; cases digit
    rw [List.cons_append, Decimal.splitSign]
    · exact fun _ h => minus (List.cons.inj h).1
    · exact fun _ h => plus (List.cons.inj h).1

theorem readYear?_of_splitSign {cs rest : List Char} {negative : Bool} {n : Nat}
    (sign : Decimal.splitSign cs = (negative, (padded 4 n).toList ++ rest))
    (stops : Stops Char.isDigit rest) :
    readYear? cs = some (if negative then -(n : Int) else n, rest) := by
  have long := Nat.not_lt.mpr (le_length_padded 4 n)
  simp only [readYear?, sign, span_padded_append 4 n stops, if_neg long, ofDigits_padded]

theorem readYear?_yearText (year : Int) {rest : List Char} (stops : Stops Char.isDigit rest) :
    readYear? ((yearText year).toList ++ rest) = some (year, rest) := by
  unfold yearText
  split
  · next negative =>
    have size : -(year.natAbs : Int) = year := by omega
    have sign : Decimal.splitSign (("-" ++ padded 4 year.natAbs).toList ++ rest) =
        (true, (padded 4 year.natAbs).toList ++ rest) := by
      rw [String.toList_append]
      rfl
    rw [readYear?_of_splitSign sign stops, if_pos rfl, size]
  · next positive =>
    have size : (year.natAbs : Int) = year := by omega
    split
    · rw [readYear?_of_splitSign (splitSign_padded _ _) stops, if_neg nofun, size]
    · have sign : Decimal.splitSign (("+" ++ padded 4 year.natAbs).toList ++ rest) =
          (false, (padded 4 year.natAbs).toList ++ rest) := by
        rw [String.toList_append]
        rfl
      rw [readYear?_of_splitSign sign stops, if_neg nofun, size]

theorem toList_text (d : Date) : d.text.toList = (yearText d.civil.1).toList ++
    '-' :: ((padded 2 d.civil.2.1).toList ++ '-' :: (padded 2 d.civil.2.2).toList) := by
  simp [text]

theorem civil_lt (d : Date) : d.civil.2.1 < 10 ^ 2 ∧ d.civil.2.2 < 10 ^ 2 := by
  have whole := ofCivil?_civil d
  rw [ofCivil?, Option.ite_none_right_eq_some] at whole
  have longest : monthLength d.civil.1 d.civil.2.1 ≤ 31 := by
    unfold monthLength
    split
    · split <;> decide
    · split <;> decide
  omega

/-- A date is read back from its text, whatever is behind it. -/
theorem read?_text (d : Date) (rest : List Char) :
    read? (d.text.toList ++ rest) = some (d, rest) := by
  have two : 0 < 2 := by decide
  obtain ⟨month, dayOfMonth⟩ := civil_lt d
  rw [toList_text]
  simp only [List.append_assoc, List.cons_append]
  rw [read?, readYear?_yearText _ (stops_cons _ rfl)]
  simp only [readPart?_padded '-' two month, readPart?_padded '-' two dayOfMonth,
    ofCivil?_civil, Option.bind_eq_bind, Option.bind_some]
  rfl

end Date

namespace Timestamp

/-- The nanoseconds of at most nine digits behind a point, if there is one. -/
def readFraction? : List Char → Option (Nat × List Char)
  | '.' :: cs =>
    let (digits, rest) := cs.span Char.isDigit
    if digits.isEmpty || 9 < digits.length then none
    else some (Decimal.ofDigits 0 digits * 10 ^ (9 - digits.length), rest)
  | cs => some (0, cs)

/-- The moment of a date and a time, where the sixtieth second of a minute is a leap second. -/
def ofClock? (date : Date) (hour minute second nanosecond : Nat) : Option Timestamp :=
  if h : hour < 24 ∧ minute < 60 ∧ second ≤ 60 ∧ nanosecond < 1000000000 then
    some ⟨date, hour * 3600 + minute * 60 + min second 59, second / 60 * 1000000000 + nanosecond,
      by omega, by omega, by omega⟩
  else none

/-- The moment in front, and what is behind it. -/
def read? (cs : List Char) : Option (Timestamp × List Char) := do
  let (date, cs) ← Date.read? cs
  let (hour, cs) ← readPart? 'T' 2 cs
  let (minute, cs) ← readPart? ':' 2 cs
  let (second, cs) ← readPart? ':' 2 cs
  let (nanosecond, cs) ← readFraction? cs
  return (← ofClock? date hour minute second nanosecond, cs)

theorem readFraction?_digits {width k n : Nat} (positive : 0 < width) (most : width ≤ 9)
    (fits : k < 10 ^ width) (whole : k * 10 ^ (9 - width) = n) {rest : List Char}
    (stops : Stops Char.isDigit rest) :
    readFraction? (("." ++ padded width k).toList ++ rest) = some (n, rest) := by
  have run := span_padded_append width k stops
  have length := length_padded positive fits
  have digits : (padded width k).toList.isEmpty = false := by
    rw [List.isEmpty_eq_false_iff, ← List.length_pos_iff, length]
    exact positive
  rw [String.toList_append]
  change readFraction? ('.' :: ((padded width k).toList ++ rest)) = _
  simp only [readFraction?, run, digits, length, ofDigits_padded, whole]
  rw [if_neg (by simpa using most)]

/-- A fraction begins with a point and goes on with digits. -/
def isFractional (c : Char) : Bool := c.isDigit || c == '.'

theorem readFraction?_fractionText {n : Nat} (inside : n < 1000000000) {rest : List Char}
    (stops : Stops isFractional rest) :
    readFraction? ((fractionText n).toList ++ rest) = some (n, rest) := by
  have ends : Stops Char.isDigit rest := fun c hc => (Bool.or_eq_false_iff.mp (stops c hc)).1
  unfold fractionText
  split
  · next whole =>
    subst whole
    rcases rest with _ | ⟨c, rest⟩
    · rfl
    · have point : c ≠ '.' := by rintro rfl; exact absurd (stops '.' rfl) (by decide)
      rw [String.toList_empty, List.nil_append, readFraction?]
      exact fun _ h => point (List.cons.inj h).1
  · -- three, six or nine digits
    split
    · exact readFraction?_digits (by decide) (by decide) (by omega) (by omega) ends
    · split
      · exact readFraction?_digits (by decide) (by decide) (by omega) (by omega) ends
      · exact readFraction?_digits (by decide) (by decide) (by omega) (by omega) ends

theorem ofClock?_clock (t : Timestamp) :
    ofClock? t.date (t.second / 3600) (t.second / 60 % 60)
      (t.second % 60 + t.nanosecond / 1000000000) (t.nanosecond % 1000000000) = some t := by
  obtain ⟨date, second, nanosecond, inDay, inSecond, leap⟩ := t
  have seconds : second / 3600 * 3600 + second / 60 % 60 * 60 +
      min (second % 60 + nanosecond / 1000000000) 59 = second := by
    omega
  have minutes : (second % 60 + nanosecond / 1000000000) / 60 = nanosecond / 1000000000 := by omega
  have inside : second / 3600 < 24 ∧ second / 60 % 60 < 60 ∧
      second % 60 + nanosecond / 1000000000 ≤ 60 ∧ nanosecond % 1000000000 < 1000000000 := by
    omega
  rw [ofClock?, dif_pos inside]
  simp only [seconds, minutes, Nat.div_add_mod']

theorem toList_text (t : Timestamp) : (t.text "T").toList = t.date.text.toList ++
    'T' :: ((padded 2 (t.second / 3600)).toList ++
      ':' :: ((padded 2 (t.second / 60 % 60)).toList ++
        ':' :: ((padded 2 (t.second % 60 + t.nanosecond / 1000000000)).toList ++
          (fractionText (t.nanosecond % 1000000000)).toList))) := by
  simp [text, timeText]

/-- A moment is read back from its text, whatever is behind it that does not go on with a
fraction. -/
theorem read?_text (t : Timestamp) {rest : List Char} (stops : Stops isFractional rest) :
    read? ((t.text "T").toList ++ rest) = some (t, rest) := by
  have two : 0 < 2 := by decide
  have inDay := t.second_lt
  have inSecond := t.nanosecond_lt
  have hour : t.second / 3600 < 10 ^ 2 := by omega
  have minute : t.second / 60 % 60 < 10 ^ 2 := by omega
  have second : t.second % 60 + t.nanosecond / 1000000000 < 10 ^ 2 := by omega
  have fraction := readFraction?_fractionText (n := t.nanosecond % 1000000000) (by omega) stops
  rw [toList_text]
  simp only [List.append_assoc, List.cons_append]
  rw [read?, Date.read?_text]
  simp only [readPart?_padded 'T' two hour, readPart?_padded ':' two minute,
    readPart?_padded ':' two second, fraction, ofClock?_clock, Option.bind_eq_bind,
    Option.bind_some]
  rfl

end Timestamp

end BoundSql.Calendar
