import BoundSql.Proofs.JsonReading
import BoundSql.Proofs.ShortestDigits

/-!
# Floating-point numbers read back from JSON

`readWith?_nearest_print`: a value whose floating-point numbers are finite is read back from its
text by a reader that rounds to nearest. What a layout makes of the shortest digits is a `Numeral`
that stands for the same number (`exists_numeral_magnitude`), the parts of a numeral are what is
read of it (`readNumber_numeral`), and the digits round to the number
(`Decimal.Binary.rounds_shortest`).
-/

namespace BoundSql

namespace Decimal

/-! ## Finite numbers -/

/-- A number that is neither infinite nor NaN. -/
def Double.isFinite (x : Double) : Bool := x.code < Format.double.infinity

theorem Double.exists_parts {x : Double} (finite : x.isFinite = true) :
    ∃ n, Format.double.parts x.code = .finite n := by
  have less := of_decide_eq_true finite
  unfold Format.parts
  rw [if_neg (by omega), if_neg (by omega)]
  split
  · exact ⟨_, rfl⟩
  · exact ⟨_, rfl⟩

theorem Double.exponent_le {x : Double} {n : Binary} (codes : Format.double.Codes x.code n)
    (finite : x.isFinite = true) : n.exponent ≤ 971 := by
  have less : x.code < 0x7ff0000000000000 := of_decide_eq_true finite
  have code : x.code = (n.exponent - -1074).toNat * 0x10000000000000 + n.mantissa := codes.code_eq
  have full : n.exponent = -1074 ∨ 0x10000000000000 ≤ n.mantissa := codes.full
  omega

theorem Double.code_eq_zero {x : Double} {n : Binary} (codes : Format.double.Codes x.code n)
    (none : n.mantissa = 0) : x.code = 0 := by
  have code : x.code = (n.exponent - -1074).toNat * 0x10000000000000 + n.mantissa := codes.code_eq
  have full : n.exponent = -1074 ∨ 0x10000000000000 ≤ n.mantissa := codes.full
  omega

theorem Double.ofCode_code (x : Double) : ofCode x.negative x.code = x := by
  obtain ⟨negative, code, less⟩ := x
  simp only [ofCode, Nat.mod_eq_of_lt less]

end Decimal

open Decimal

/-! ## Digits in a row -/

theorem ofDigits_append (start : ℕ) (ds es : List Char) :
    ofDigits start (ds ++ es) = ofDigits (ofDigits start ds) es :=
  List.foldl_append

theorem ofDigits_replicate_zero (start j : ℕ) :
    ofDigits start (List.replicate j '0') = start * 10 ^ j := by
  induction j generalizing start with
  | zero => rw [List.replicate_zero, pow_zero, mul_one]; rfl
  | succ j ih =>
    have zero : ofDigits start (List.replicate (j + 1) '0') =
        ofDigits (10 * start) (List.replicate j '0') := rfl
    rw [zero, ih, pow_succ]
    ring

namespace Json

/-- A number with a fraction or an exponent, as it is written without its sign. -/
structure Numeral where
  whole : List Char
  fraction : List Char
  exponent : Option Int
  whole_digits : ∀ c ∈ whole, c.isDigit = true
  fraction_digits : ∀ c ∈ fraction, c.isDigit = true
  present : whole ≠ []
  /-- No zero stands in front of another digit. -/
  alone_of_zero : whole.head? = some '0' → whole.length = 1
  broken : fraction ≠ [] ∨ exponent ≠ none

namespace Numeral

/-- The fraction behind its point, if there is one. -/
def pointed (fraction : List Char) : List Char :=
  if fraction = [] then [] else '.' :: fraction

/-- The exponent behind its letter, if there is one. -/
def lettered : Option Int → List Char
  | none => []
  | some e => 'e' :: (if e < 0 then '-' else '+') :: Nat.toDigits 10 e.natAbs

def chars (w : Numeral) : List Char := w.whole ++ pointed w.fraction ++ lettered w.exponent

def value (w : Numeral) : ℚ :=
  ofDigits (ofDigits 0 w.whole) w.fraction * 10 ^ (w.exponent.getD 0 - w.fraction.length)

theorem exists_chars_eq_cons (w : Numeral) : ∃ d ds, w.chars = d :: ds ∧ d.isDigit = true := by
  obtain ⟨d, ds, digits⟩ := List.exists_cons_of_ne_nil w.present
  refine ⟨d, ds ++ (pointed w.fraction ++ lettered w.exponent), ?_, ?_⟩
  · rw [chars, digits, List.append_assoc, List.cons_append]
  · exact w.whole_digits d (digits ▸ List.mem_cons_self)

end Numeral

open Numeral

/-! ## Reading -/

theorem readWhole_digits {whole rest : List Char} (digits : ∀ c ∈ whole, c.isDigit = true)
    (present : whole ≠ []) (alone : whole.head? = some '0' → whole.length = 1)
    (stops : Stops Char.isDigit rest) : readWhole (whole ++ rest) = some (whole, rest) := by
  have padded : (whole.head? == some '0' && 1 < whole.length) = false := by
    by_cases zero : whole.head? = some '0'
    · simp [alone zero]
    · simp [zero]
  rw [readWhole, span_append_of_stops digits stops]
  simp [present, padded]

theorem readFraction_pointed {fraction rest : List Char}
    (digits : ∀ c ∈ fraction, c.isDigit = true) (stops : Stops isDecimal rest) :
    readFraction (pointed fraction ++ rest) = some (fraction, rest) := by
  unfold pointed
  split
  · next none =>
    rw [none]
    exact readFraction_of_stops stops
  · next present =>
    rw [List.cons_append, readFraction, span_append_of_stops digits (stops_isDigit stops)]
    simp [present]

theorem readExponent_lettered (exponent : Option Int) {rest : List Char}
    (stops : Stops isNumeric rest) :
    readExponent (lettered exponent ++ rest) = some (exponent, rest) := by
  cases exponent with
  | none => exact readExponent_of_stops stops
  | some e =>
    have digits := span_toDigits_append e.natAbs (stops_isDigit (stops_isDecimal stops))
    have present : (Nat.toDigits 10 e.natAbs).isEmpty = false := by simp [Nat.toDigits_ne_nil]
    by_cases negative : e < 0
    · have size : -(e.natAbs : Int) = e := by omega
      simp only [lettered, negative, if_true, List.cons_append, readExponent, BEq.rfl, Bool.true_or,
        splitSign, digits, present, ofDigits_toDigits, size, Bool.false_eq_true, if_false]
    · have size : (e.natAbs : Int) = e := by omega
      simp only [lettered, negative, if_true, List.cons_append, readExponent, BEq.rfl, Bool.true_or,
        splitSign, digits, present, ofDigits_toDigits, size, Bool.false_eq_true, if_false]

theorem stops_lettered (exponent : Option Int) {rest : List Char} (stops : Stops isNumeric rest) :
    Stops isDecimal (lettered exponent ++ rest) := by
  cases exponent with
  | some e => exact stops_cons _ rfl
  | none => exact stops_isDecimal stops

theorem stops_pointed (fraction : List Char) {rest : List Char} (stops : Stops isDecimal rest) :
    Stops Char.isDigit (pointed fraction ++ rest) := by
  unfold pointed
  split
  · exact stops_isDigit stops
  · exact stops_cons _ rfl

theorem readNumber_numeral (round : Rounding) (negative : Bool) (w : Numeral) {rest : List Char}
    (stops : Stops isNumeric rest) :
    readNumber round ((if negative then ['-'] else []) ++ w.chars ++ rest) =
      (round negative w.whole w.fraction (w.exponent.getD 0)).map fun x => (.float x, rest) := by
  have behind := stops_lettered w.exponent stops
  have whole := readWhole_digits w.whole_digits w.present w.alone_of_zero
    (stops_pointed w.fraction behind)
  have fraction := readFraction_pointed w.fraction_digits behind
  have exponent := readExponent_lettered w.exponent stops
  have broken : (w.fraction.isEmpty && w.exponent.isNone) = false := by
    rcases w.broken with present | present <;> simp [present, Option.isSome_iff_ne_none]
  have parts : w.chars ++ rest =
      w.whole ++ (pointed w.fraction ++ (lettered w.exponent ++ rest)) := by
    rw [Numeral.chars, List.append_assoc, List.append_assoc]
  rw [List.append_assoc]
  cases negative with
  | true =>
    rw [if_pos rfl, List.singleton_append, readNumber, parts]
    simp only [whole, fraction, exponent, Option.bind_eq_bind, Option.bind_some, broken,
      Bool.false_and, Bool.false_eq_true, if_false]
    rw [Option.map_eq_bind]
    rfl
  | false =>
    have unsigned : ∀ r, w.chars ++ rest ≠ '-' :: r := by
      intro r eq
      obtain ⟨d, ds, digits, digit⟩ := w.exists_chars_eq_cons
      rw [digits] at eq
      obtain ⟨rfl, -⟩ := List.cons.inj eq
      cases digit
    rw [if_neg Bool.false_ne_true, List.nil_append, readNumber.eq_2 _ _ unsigned, parts]
    simp only [whole, fraction, exponent, Option.bind_eq_bind, Option.bind_some, broken,
      Bool.false_and, Bool.false_eq_true, if_false]
    rw [Option.map_eq_bind]
    rfl

/-! ## Writing -/

section Layout

variable {C : ℕ} {E : ℤ}

theorem isDigit_replicate_zero (j : ℕ) : ∀ c ∈ List.replicate j '0', c.isDigit = true := by
  intro c hc
  rw [List.eq_of_mem_replicate hc]
  rfl

theorem head?_toDigits_eq_zero (h : (Nat.toDigits 10 C).head? = some '0') : C = 0 := by
  by_contra nonzero
  exact head?_toDigits C (Nat.pos_of_ne_zero nonzero) h

/-- The digits with a point among them. -/
theorem exists_numeral_cut (pos : 0 < C) {j : ℕ} (front : 0 < j) (exponent : Option ℤ)
    (broken : (Nat.toDigits 10 C).drop j ≠ [] ∨ exponent ≠ none) :
    ∃ w : Numeral, w.chars = (Nat.toDigits 10 C).take j ++ pointed ((Nat.toDigits 10 C).drop j) ++
        lettered exponent ∧
      w.value = C * 10 ^ (exponent.getD 0 - ((Nat.toDigits 10 C).length - j : ℕ)) := by
  have head : ((Nat.toDigits 10 C).take j).head? ≠ some '0' := by
    rw [List.head?_take, if_neg front.ne']
    exact head?_toDigits C pos
  have present : (Nat.toDigits 10 C).take j ≠ [] := by
    simp [Nat.toDigits_ne_nil, front.ne']
  refine ⟨⟨(Nat.toDigits 10 C).take j, (Nat.toDigits 10 C).drop j, exponent,
    fun c hc => isDigit_toDigits C c (List.mem_of_mem_take hc),
    fun c hc => isDigit_toDigits C c (List.mem_of_mem_drop hc), present,
    fun zero => absurd zero head, broken⟩, rfl, ?_⟩
  simp only [Numeral.value]
  rw [← ofDigits_append, List.take_append_drop, ofDigits_toDigits, List.length_drop]

/-- The digits with zeros behind them, up to the point. -/
theorem exists_numeral_padded (zero : C = 0 → E = 0) (whole : 0 ≤ E) :
    ∃ w : Numeral, w.chars = Nat.toDigits 10 C ++ List.replicate E.toNat '0' ++ ['.', '0'] ∧
      w.value = C * 10 ^ E := by
  have alone : (Nat.toDigits 10 C ++ List.replicate E.toNat '0').head? = some '0' →
      (Nat.toDigits 10 C ++ List.replicate E.toNat '0').length = 1 := by
    rw [List.head?_append_of_ne_nil _ Nat.toDigits_ne_nil]
    intro head
    have none := head?_toDigits_eq_zero head
    rw [zero none, none]
    rfl
  refine ⟨⟨Nat.toDigits 10 C ++ List.replicate E.toNat '0', ['0'], none, ?_,
    List.forall_mem_singleton.mpr rfl, by simp [Nat.toDigits_ne_nil], alone,
    .inl (List.cons_ne_nil _ _)⟩, ?_, ?_⟩
  · intro c hc
    rcases List.mem_append.mp hc with digit | zero
    · exact isDigit_toDigits C c digit
    · exact isDigit_replicate_zero _ c zero
  · simp [Numeral.chars, pointed, lettered]
  · have power : (10 : ℚ) ^ E = 10 ^ E.toNat := by
      rw [← zpow_natCast, Int.toNat_of_nonneg whole]
    have last (m : ℕ) : ofDigits m ['0'] = m * 10 := ofDigits_replicate_zero m 1
    simp only [Numeral.value, ofDigits_append, ofDigits_toDigits, ofDigits_replicate_zero, last,
      power]
    push_cast
    norm_num
    ring

/-- The digits behind the point, with zeros before them. -/
theorem exists_numeral_small {j : ℕ} :
    ∃ w : Numeral, w.chars = '0' :: '.' :: List.replicate j '0' ++ Nat.toDigits 10 C ∧
      w.value = C * 10 ^ (-(j + (Nat.toDigits 10 C).length : ℕ) : ℤ) := by
  have present : List.replicate j '0' ++ Nat.toDigits 10 C ≠ [] := by
    simp [Nat.toDigits_ne_nil]
  refine ⟨⟨['0'], List.replicate j '0' ++ Nat.toDigits 10 C, none,
    List.forall_mem_singleton.mpr rfl, ?_, List.cons_ne_nil _ _, fun _ => rfl, .inl present⟩,
    ?_, ?_⟩
  · intro c hc
    rcases List.mem_append.mp hc with zero | digit
    · exact isDigit_replicate_zero _ c zero
    · exact isDigit_toDigits C c digit
  · simp [Numeral.chars, pointed, lettered, Nat.toDigits_ne_nil]
  · have first : ofDigits 0 ['0'] = 0 := rfl
    simp only [Numeral.value, first, ofDigits_append, ofDigits_replicate_zero, Nat.zero_mul,
      ofDigits_toDigits, List.length_append, List.length_replicate, Option.getD_none, zero_sub]

theorem exists_numeral_setPoint {l : Layout} (pointZero : l.pointZero = true)
    (zero : C = 0 → E = 0) :
    ∃ w : Numeral, w.chars = l.setPoint (Nat.toDigits 10 C) ((Nat.toDigits 10 C).length + E) ∧
      w.value = C * 10 ^ E := by
  by_cases whole : 0 ≤ E
  · obtain ⟨w, chars, value⟩ := exists_numeral_padded zero whole
    refine ⟨w, ?_, value⟩
    rw [chars, Layout.setPoint, if_pos (by omega), if_pos pointZero, add_sub_cancel_left]
  · by_cases inside : 0 < (Nat.toDigits 10 C).length + E
    · -- the point stands among the digits
      obtain ⟨j, point⟩ := Int.eq_ofNat_of_zero_le inside.le
      have rest : (Nat.toDigits 10 C).drop j ≠ [] := by
        rw [ne_eq, List.drop_eq_nil_iff]
        omega
      have pos : 0 < C := Nat.pos_of_ne_zero fun none => whole (zero none).ge
      have places : (0 : ℤ) - ((Nat.toDigits 10 C).length - j : ℕ) = E := by omega
      obtain ⟨w, chars, value⟩ := exists_numeral_cut pos (by omega : 0 < j) none (.inl rest)
      refine ⟨w, ?_, ?_⟩
      · rw [chars, Layout.setPoint, if_neg (by omega), if_pos inside, point, pointed, if_neg rest]
        exact List.append_nil _
      · rw [value, Option.getD_none, places]
    · have outside : 0 ≤ -((Nat.toDigits 10 C).length + E) := by omega
      obtain ⟨j, point⟩ := Int.eq_ofNat_of_zero_le outside
      have places : -((j + (Nat.toDigits 10 C).length : ℕ) : ℤ) = E := by omega
      obtain ⟨w, chars, value⟩ := exists_numeral_small (C := C) (j := j)
      refine ⟨w, ?_, ?_⟩
      · rw [chars, Layout.setPoint, if_neg (by omega), if_neg inside, point]
        rfl
      · rw [value, places]

theorem exists_numeral_setExponent (pos : 0 < C) (E : ℤ) :
    ∃ w : Numeral, w.chars =
        Layout.setExponent (Nat.toDigits 10 C) ((Nat.toDigits 10 C).length + E) ∧
      w.value = C * 10 ^ E := by
  have size := List.length_pos_of_ne_nil (Nat.toDigits_ne_nil (b := 10) (n := C))
  have places : (Nat.toDigits 10 C).length + E - 1 - ((Nat.toDigits 10 C).length - 1 : ℕ) = E := by
    omega
  obtain ⟨w, chars, value⟩ := exists_numeral_cut pos Nat.one_pos
    (some ((Nat.toDigits 10 C).length + E - 1)) (.inr nofun)
  refine ⟨w, ?_, ?_⟩
  · simp only [chars, Layout.setExponent, pointed, lettered, List.drop_eq_nil_iff]
  · rw [value, Option.getD_some, places]

/-- The digits of a magnitude are a numeral. -/
theorem exists_numeral_magnitude {l : Layout} (pointZero : l.pointZero = true)
    (unit : l.positional 1 = true) {n : Binary}
    (zero : (n.shortest l.tie).coefficient = 0 → (n.shortest l.tie).exponent = 0) :
    ∃ w : Numeral, w.chars = l.magnitude n ∧ w.value = (n.shortest l.tie).value := by
  unfold Layout.magnitude
  generalize n.shortest l.tie = d at zero
  by_cases positional : l.positional ((Nat.toDigits 10 d.coefficient).length + d.exponent) = true
  · simp only [if_pos positional]
    exact exists_numeral_setPoint pointZero zero
  · simp only [if_neg positional]
    refine exists_numeral_setExponent (Nat.pos_of_ne_zero fun none => positional ?_) _
    rw [none, zero none]
    exact unit

end Layout

/-! ## Nearest numbers -/

/-- The number nearest to a written one, ties to even. -/
def nearest? : Rounding := fun negative whole fraction exponent =>
  let coefficient := ofDigits (ofDigits 0 whole) fraction
  let power := exponent - fraction.length
  some (Double.ofCode negative
    (Format.double.nearest (coefficient * 10 ^ power.toNat) (10 ^ (-power).toNat)))

theorem nearest_value {f : Format} {code : ℕ} {n : Binary} (precise : 0 < f.precision)
    (codes : f.Codes code n) (finite : code ≤ f.infinity) {C : ℕ} {E : ℤ} (pos : 0 < C)
    (rounds : n.Rounds (C * 10 ^ E)) :
    f.nearest (C * 10 ^ E.toNat) (10 ^ (-E).toNat) = code := by
  have quotient : ((C * 10 ^ E.toNat : ℕ) : ℚ) / (10 ^ (-E).toNat : ℕ) = C * 10 ^ E := by
    have tens := pow_toNat_div (by norm_num : (10 : ℚ) ≠ 0) E
    push_cast
    rw [mul_div_assoc, tens]
  refine nearest_of_rounds precise codes finite (by positivity) (by positivity) ?_
  rwa [quotient]

theorem nearest?_of_rounds {x : Double} {n : Binary} (codes : Format.double.Codes x.code n)
    (finite : x.isFinite = true) {w : Numeral} (pos : 0 < w.value) (rounds : n.Rounds w.value) :
    nearest? x.negative w.whole w.fraction (w.exponent.getD 0) = some x := by
  have coefficient : 0 < ofDigits (ofDigits 0 w.whole) w.fraction := by
    rw [Nat.pos_iff_ne_zero]
    intro zero
    rw [Numeral.value, zero, Nat.cast_zero, zero_mul] at pos
    exact lt_irrefl 0 pos
  have nearest := nearest_value (by decide) codes (of_decide_eq_true finite).le coefficient rounds
  simp only [nearest?]
  rw [nearest, Double.ofCode_code]

theorem nearest?_of_zero {x : Double} (zero : x.code = 0) {w : Numeral} (value : w.value = 0) :
    nearest? x.negative w.whole w.fraction (w.exponent.getD 0) = some x := by
  have power : (10 : ℚ) ^ (w.exponent.getD 0 - w.fraction.length) ≠ 0 := by positivity
  have coefficient : ofDigits (ofDigits 0 w.whole) w.fraction = 0 :=
    Nat.cast_eq_zero.mp ((mul_eq_zero.mp value).resolve_right power)
  simp only [nearest?]
  rw [coefficient, Nat.zero_mul, Format.nearest, if_pos (.inl rfl), ← zero, Double.ofCode_code]

theorem exists_numeral_text {x : Double} (finite : x.isFinite = true) :
    ∃ w : Numeral,
      (numberLayout.text x).toList = (if x.negative then ['-'] else []) ++ w.chars ∧
      nearest? x.negative w.whole w.fraction (w.exponent.getD 0) = some x := by
  obtain ⟨n, parts⟩ := Double.exists_parts finite
  have codes := Format.codes_of_parts (by decide) parts
  have text : (numberLayout.text x).toList =
      (if x.negative then ['-'] else []) ++ numberLayout.magnitude n := by
    rw [Layout.text, parts]
    exact String.toList_ofList
  rw [text]
  rcases Nat.eq_zero_or_pos n.mantissa with none | pos
  · have shortest : n.shortest numberLayout.tie = ⟨0, 0⟩ := if_pos none
    obtain ⟨w, chars, value⟩ := exists_numeral_magnitude (l := numberLayout) rfl rfl (n := n)
      (by rw [shortest]; exact fun _ => rfl)
    refine ⟨w, by rw [chars], nearest?_of_zero ?_ ?_⟩
    · exact Double.code_eq_zero codes none
    · rw [value, shortest, Digits.value]
      norm_num
  · have rounds := n.rounds_shortest numberLayout.tie pos codes.mantissa_lt codes.least_le
      (Double.exponent_le codes finite)
    obtain ⟨w, chars, value⟩ := exists_numeral_magnitude (l := numberLayout) rfl rfl (n := n)
      fun none => absurd none rounds.1.ne'
    refine ⟨w, by rw [chars], nearest?_of_rounds codes finite ?_ (value ▸ rounds.2)⟩
    rw [value]
    exact mul_pos (Nat.cast_pos.mpr rounds.1) (by positivity)

theorem readable_nearest {x : Double} (finite : x.isFinite = true) : Readable nearest? x := by
  obtain ⟨w, text, back⟩ := exists_numeral_text finite
  refine ⟨?_, fun stops => ?_⟩
  · obtain ⟨d, ds, digits, digit⟩ := w.exists_chars_eq_cons
    rw [text, digits]
    cases x.negative with
    | true => exact ⟨_, _, rfl, .inr rfl⟩
    | false => exact ⟨_, _, rfl, .inl digit⟩
  · rw [text, readNumber_numeral nearest? x.negative w stops, back]
    rfl

/-- A value whose floating-point numbers are finite is read back from its text, if they are read as
the nearest ones. -/
theorem readWith?_nearest_print {j : Json} (finite : j.allFloats Double.isFinite = true) :
    readWith? nearest? j.print = some j :=
  readWith?_print (fun _ => readable_nearest) finite

end Json

end BoundSql
