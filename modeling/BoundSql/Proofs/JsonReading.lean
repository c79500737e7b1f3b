import BoundSql.Json.Printer
import BoundSql.Json.Reader
import BoundSql.Proofs.CharacterRuns

/-!
# Written JSON is read back

`Json.readWith?_print`: a value is read back from its text if the floating-point numbers in it are.
The reader takes a value off the front of its text and leaves what is behind it, so this is shown
for a value with any text behind it that does not go on with a number, item by item and member by
member. Every string is read back, whatever its characters, for the reader takes each character off
as it is escaped.
-/

namespace BoundSql.Json

/-! ## Strings -/

/-- What is read with one more character in front. -/
def inFront (c : Char) : List Char × List Char → List Char × List Char
  | (cs, rest) => (c :: cs, rest)

theorem readChars_unit {a b c d x : Char} {u : Nat} (unit : hexUnit? a b c d = some u)
    (char : unitChar? u = some x) (rest : List Char) :
    readChars ('\\' :: 'u' :: a :: b :: c :: d :: rest) = (readChars rest).map (inFront x) := by
  by_cases pair : ∃ e f g h tail, rest = '\\' :: 'u' :: e :: f :: g :: h :: tail
  · -- the pattern of a surrogate pair, whose first half is a character of its own here
    obtain ⟨e, f, g, h, tail, rfl⟩ := pair
    rw [readChars, unit, Option.bind_eq_bind, Option.bind_some, char]
    rcases readChars ('\\' :: 'u' :: e :: f :: g :: h :: tail) with _ | ⟨cs, r⟩ <;> rfl
  · rw [readChars, unit, Option.bind_eq_bind, Option.bind_some, char]
    · rcases readChars rest with _ | ⟨cs, r⟩ <;> rfl
    · exact fun e f g h tail eq => pair ⟨e, f, g, h, tail, eq⟩

theorem readChars_letter {e x : Char} (letter : unescape? e = some x) (rest : List Char) :
    readChars ('\\' :: e :: rest) = (readChars rest).map (inFront x) := by
  have plain : e ≠ 'u' := by rintro rfl; cases letter
  rw [readChars, letter]
  · rcases readChars rest with _ | ⟨cs, r⟩ <;> rfl
  · exact fun _ _ _ _ _ _ _ _ _ h => absurd h plain
  · exact fun _ _ _ _ _ h => absurd h plain

theorem readChars_plain {c : Char} (quote : c ≠ '"') (backslash : c ≠ '\\')
    (printed : ¬ c.toNat < 0x20) (rest : List Char) :
    readChars (c :: rest) = (readChars rest).map (inFront c) := by
  rw [readChars]
  · rw [if_neg (by simp [backslash, printed])]
    rcases readChars rest with _ | ⟨cs, r⟩ <;> rfl
  · exact quote
  · exact fun _ _ _ _ _ _ _ _ _ h => absurd h backslash
  · exact fun _ _ _ _ _ h => absurd h backslash
  · exact fun _ _ h => absurd h backslash

theorem hexUnit?_control : ∀ n < 0x20,
    hexUnit? '0' '0' (hexDigit (n / 16)) (hexDigit (n % 16)) = some n ∧
      unitChar? n = some (Char.ofNat n) := by decide

theorem readChars_escape (c : Char) (rest : List Char) :
    readChars (escape c ++ rest) = (readChars rest).map (inFront c) := by
  unfold escape
  split
  iterate 7 exact readChars_letter rfl rest
  · rename_i quote backslash _ _ _ _ _
    split
    · next control =>
      obtain ⟨unit, char⟩ := hexUnit?_control c.toNat control
      rw [Char.ofNat_toNat] at char
      exact readChars_unit unit char rest
    · next printed => exact readChars_plain quote backslash printed rest

theorem readChars_flatMap_escape (cs rest : List Char) :
    readChars (cs.flatMap escape ++ '"' :: rest) = some (cs, rest) := by
  induction cs with
  | nil => rw [List.flatMap_nil, List.nil_append, readChars]
  | cons c cs ih =>
    rw [List.flatMap_cons, List.append_assoc, readChars_escape, ih]
    rfl

/-! ## Numbers -/

/-- A character that could go on with the digits of a number. -/
def isDecimal (c : Char) : Bool := c.isDigit || c == '.'

/-- A character that could go on with a number. -/
def isNumeric (c : Char) : Bool := isDecimal c || c == 'e' || c == 'E'

theorem stops_isDecimal {rest : List Char} (stops : Stops isNumeric rest) :
    Stops isDecimal rest := by
  intro c hc
  have other := stops c hc
  simp only [isNumeric, Bool.or_eq_false_iff] at other
  exact other.1.1

theorem stops_isDigit {rest : List Char} (stops : Stops isDecimal rest) :
    Stops Char.isDigit rest :=
  fun c hc => (Bool.or_eq_false_iff.mp (stops c hc)).1

theorem readWhole_toDigits (n : Nat) {rest : List Char} (stops : Stops Char.isDigit rest) :
    readWhole (Nat.toDigits 10 n ++ rest) = some (Nat.toDigits 10 n, rest) := by
  have digits : (Nat.toDigits 10 n).isEmpty = false := by simp [Nat.toDigits_ne_nil]
  rw [readWhole, span_toDigits_append n stops]
  rcases Nat.eq_zero_or_pos n with rfl | pos
  · rfl
  · simp [digits, head?_toDigits n pos]

theorem readFraction_of_stops {rest : List Char} (stops : Stops isDecimal rest) :
    readFraction rest = some ([], rest) := by
  rcases rest with _ | ⟨c, rest⟩
  · rfl
  · have point : c ≠ '.' := by rintro rfl; exact absurd (stops '.' rfl) (by decide)
    rw [readFraction]
    exact fun _ h => point (List.cons.inj h).1

theorem readExponent_of_stops {rest : List Char} (stops : Stops isNumeric rest) :
    readExponent rest = some (none, rest) := by
  rcases rest with _ | ⟨c, rest⟩
  · rfl
  · have other := stops c rfl
    simp only [isNumeric, Bool.or_eq_false_iff] at other
    simp [readExponent, other.2, other.1.2]

theorem toList_toString_natCast (n : Nat) : (toString (n : Int)).toList = Nat.toDigits 10 n :=
  Nat.toList_repr

theorem toList_toString_negSucc (n : Nat) :
    (toString (Int.negSucc n)).toList = '-' :: Nat.toDigits 10 (n + 1) := by
  have signed : toString (Int.negSucc n) = "-" ++ Nat.repr (n + 1) := rfl
  rw [signed, String.toList_append, Nat.toList_repr]
  rfl

theorem readNumber_int (round : Rounding) (n : Int) {rest : List Char}
    (stops : Stops isNumeric rest) :
    readNumber round ((toString n).toList ++ rest) = some (.int n, rest) := by
  have behind := stops_isDecimal stops
  have whole (m : Nat) := readWhole_toDigits m (stops_isDigit behind)
  have fraction := readFraction_of_stops behind
  have exponent := readExponent_of_stops stops
  cases n with
  | ofNat n =>
    have unsigned : ∀ r, Nat.toDigits 10 n ++ rest = '-' :: r → False := by
      intro r eq
      obtain ⟨d, ds, digits, digit⟩ := exists_toDigits_eq_cons n
      rw [digits] at eq
      obtain ⟨rfl, -⟩ := List.cons.inj eq
      cases digit
    rw [Int.ofNat_eq_natCast, toList_toString_natCast, readNumber.eq_2 _ _ unsigned, whole]
    simp only [fraction, exponent, Option.bind_eq_bind, Option.bind_some, ofDigits_toDigits]
    rfl
  | negSucc n =>
    rw [toList_toString_negSucc, List.cons_append, readNumber, whole]
    simp only [fraction, exponent, Option.bind_eq_bind, Option.bind_some, ofDigits_toDigits]
    rfl

/-! ## Values -/

mutual

/-- Every floating-point number in the value has the property. -/
def allFloats (p : Decimal.Double → Bool) : Json → Bool
  | .float x => p x
  | .array items => itemsAllFloats p items
  | .object members => membersAllFloats p members
  | _ => true

def itemsAllFloats (p : Decimal.Double → Bool) : List Json → Bool
  | [] => true
  | item :: items => item.allFloats p && itemsAllFloats p items

def membersAllFloats (p : Decimal.Double → Bool) : List (String × Json) → Bool
  | [] => true
  | (_, value) :: members => value.allFloats p && membersAllFloats p members

end

/-- No floating-point number stands in the value. -/
def floatFree (j : Json) : Bool := j.allFloats fun _ => false

section Reading

variable {round : Rounding}

theorem skipBlanks_cons {c : Char} (blank : isBlank c = false) (cs : List Char) :
    skipBlanks (c :: cs) = c :: cs := by
  rw [skipBlanks, List.dropWhile_cons_of_neg (by simp [blank])]

theorem readValue_printString (fuel : Nat) (s : String) (rest : List Char) :
    readValue round (fuel + 1) (printString s ++ rest) = some (.text s, rest) := by
  rw [printString, List.cons_append, List.cons_append, List.append_assoc, List.singleton_append,
    readValue, skipBlanks_cons rfl]
  simp only [readChars_flatMap_escape, Option.bind_eq_bind, Option.bind_some, String.ofList_toList]
  rfl

/-- A number starts with a digit or the sign. -/
def StartsNumber (c : Char) : Prop := c.isDigit = true ∨ c = '-'

theorem StartsNumber.ne {c d : Char} (first : StartsNumber c) (h : d.isDigit = false ∧ d ≠ '-') :
    c ≠ d := by
  rintro rfl
  simp [StartsNumber, h.1, h.2] at first

theorem StartsNumber.not_blank {c : Char} (first : StartsNumber c) : isBlank c = false := by
  have space : c ≠ ' ' := first.ne (by decide)
  have tab : c ≠ '\t' := first.ne (by decide)
  have line : c ≠ '\n' := first.ne (by decide)
  have back : c ≠ '\r' := first.ne (by decide)
  simp [isBlank, space, tab, line, back]

theorem readValue_eq_readNumber (fuel : Nat) {c : Char} (first : StartsNumber c)
    (cs : List Char) : readValue round (fuel + 1) (c :: cs) = readNumber round (c :: cs) := by
  rw [readValue, skipBlanks_cons first.not_blank]
  split
  case h_1 eq => cases eq
  case h_8 => rfl
  -- all that a value can start with otherwise
  all_goals
    rename_i eq
    exact absurd (List.cons.inj eq).1 (first.ne (by decide))

theorem exists_toString_eq_cons (n : Int) :
    ∃ c cs, (toString n).toList = c :: cs ∧ StartsNumber c := by
  cases n with
  | ofNat n =>
    obtain ⟨d, ds, digits, digit⟩ := exists_toDigits_eq_cons n
    exact ⟨d, ds, (toList_toString_natCast n).trans digits, .inl digit⟩
  | negSucc n => exact ⟨_, _, toList_toString_negSucc n, .inr rfl⟩

theorem readValue_int (fuel : Nat) (n : Int) {rest : List Char} (stops : Stops isNumeric rest) :
    readValue round (fuel + 1) ((toString n).toList ++ rest) = some (.int n, rest) := by
  have number := readNumber_int round n stops
  obtain ⟨c, cs, written, first⟩ := exists_toString_eq_cons n
  rw [written] at number ⊢
  exact (readValue_eq_readNumber fuel first _).trans number

/-- A floating-point number is read back from its text, whatever is behind it that does not go on
with it. -/
structure Readable (round : Rounding) (x : Decimal.Double) : Prop where
  starts : ∃ c cs, (numberLayout.text x).toList = c :: cs ∧ StartsNumber c
  back : ∀ {rest : List Char}, Stops isNumeric rest →
    readNumber round ((numberLayout.text x).toList ++ rest) = some (.float x, rest)

theorem readValue_float (fuel : Nat) {x : Decimal.Double} (readable : Readable round x)
    {rest : List Char} (stops : Stops isNumeric rest) :
    readValue round (fuel + 1) ((numberLayout.text x).toList ++ rest) = some (.float x, rest) := by
  have number := readable.back stops
  obtain ⟨c, cs, written, first⟩ := readable.starts
  rw [written] at number ⊢
  exact (readValue_eq_readNumber fuel first _).trans number

section Floats

variable {p : Decimal.Double → Bool} (readable : ∀ x, p x = true → Readable round x)

include readable

theorem exists_chars_eq_cons {j : Json} (all : j.allFloats p = true) :
    ∃ c cs, j.chars = c :: cs ∧ isBlank c = false ∧ c ≠ ']' := by
  cases j with
  | null => exact ⟨_, _, rfl, by decide, by decide⟩
  | bool b => cases b <;> exact ⟨_, _, rfl, by decide, by decide⟩
  | int n =>
    obtain ⟨c, cs, written, first⟩ := exists_toString_eq_cons n
    exact ⟨c, cs, written, first.not_blank, first.ne (by decide)⟩
  | float x =>
    obtain ⟨c, cs, written, first⟩ := (readable x all).starts
    exact ⟨c, cs, written, first.not_blank, first.ne (by decide)⟩
  | text s => exact ⟨_, _, rfl, by decide, by decide⟩
  | array items => cases items <;> exact ⟨_, _, rfl, by decide, by decide⟩
  | object members =>
    rcases members with _ | ⟨⟨name, value⟩, members⟩ <;> exact ⟨_, _, rfl, by decide, by decide⟩

theorem length_chars_pos {j : Json} (all : j.allFloats p = true) : 0 < j.chars.length := by
  obtain ⟨c, cs, written, -⟩ := exists_chars_eq_cons readable all
  rw [written]
  exact Nat.succ_pos _

theorem readValue_array (fuel : Nat) {item : Json} (all : item.allFloats p = true)
    (cs : List Char) :
    readValue round (fuel + 1) ('[' :: (item.chars ++ cs)) =
      (readItems round fuel (item.chars ++ cs)).map fun (items, rest) => (.array items, rest) := by
  obtain ⟨c, front, written, blank, closing⟩ := exists_chars_eq_cons readable all
  rw [readValue, skipBlanks_cons (by decide), written, List.cons_append]
  simp only [skipBlanks_cons blank]
  split
  · rename_i eq
    exact absurd (List.cons.inj eq).1 closing
  · rcases readItems round fuel _ with _ | ⟨items, rest⟩ <;> rfl

end Floats

theorem itemsChars_cons (item : Json) (items : List Json) :
    itemsChars (item :: items) = ',' :: (item.chars ++ itemsChars items) := by
  rw [itemsChars, List.cons_append]

theorem chars_array_cons (item : Json) (items : List Json) :
    (array (item :: items)).chars = '[' :: (item.chars ++ itemsChars items ++ [']']) := by
  rw [chars, List.cons_append, List.cons_append]

theorem membersChars_cons (name : String) (value : Json) (members : List (String × Json)) :
    membersChars ((name, value) :: members) =
      ',' :: (printString name ++ ':' :: (value.chars ++ membersChars members)) := by
  rw [membersChars]
  simp only [List.cons_append, List.append_assoc]

theorem chars_object_cons (name : String) (value : Json) (members : List (String × Json)) :
    (object ((name, value) :: members)).chars =
      '\x7b' :: (printString name ++ ':' :: (value.chars ++ membersChars members) ++ ['\x7d']) := by
  rw [chars]
  simp only [List.cons_append, List.append_assoc]

theorem readValue_object (fuel : Nat) (name : String) (cs : List Char) :
    readValue round (fuel + 1) ('\x7b' :: (printString name ++ cs)) =
      (readMembers round fuel (printString name ++ cs)).map fun (members, rest) =>
        (.object members, rest) := by
  rw [printString, List.cons_append, List.cons_append, readValue, skipBlanks_cons (by decide),
    Option.map_eq_bind]
  rfl

section Steps

variable {fuel : Nat} {item value : Json} {items : List Json} {members : List (String × Json)}
  {cs others rest : List Char}

theorem readItems_last (first : readValue round fuel cs = some (item, ']' :: rest)) :
    readItems round (fuel + 1) cs = some ([item], rest) := by
  rw [readItems, first]
  rfl

theorem readItems_more (first : readValue round fuel cs = some (item, ',' :: others))
    (further : readItems round fuel others = some (items, rest)) :
    readItems round (fuel + 1) cs = some (item :: items, rest) := by
  rw [readItems, first, Option.bind_eq_bind, Option.bind_some]
  simp only [skipBlanks_cons (c := ',') rfl, further]
  rfl

theorem readMembers_last (name : String)
    (first : readValue round fuel cs = some (value, '\x7d' :: rest)) :
    readMembers round (fuel + 1) (printString name ++ ':' :: cs) =
      some ([(name, value)], rest) := by
  rw [printString, List.cons_append, List.cons_append, List.append_assoc, List.singleton_append,
    readMembers]
  simp only [skipBlanks_cons (c := '"') rfl, skipBlanks_cons (c := ':') rfl,
    skipBlanks_cons (c := '\x7d') rfl, readChars_flatMap_escape, first, Option.bind_eq_bind,
    Option.bind_some, String.ofList_toList]
  rfl

theorem readMembers_more (name : String)
    (first : readValue round fuel cs = some (value, ',' :: others))
    (further : readMembers round fuel others = some (members, rest)) :
    readMembers round (fuel + 1) (printString name ++ ':' :: cs) =
      some ((name, value) :: members, rest) := by
  rw [printString, List.cons_append, List.cons_append, List.append_assoc, List.singleton_append,
    readMembers]
  simp only [skipBlanks_cons (c := '"') rfl, skipBlanks_cons (c := ':') rfl,
    skipBlanks_cons (c := ',') rfl, readChars_flatMap_escape, first, further, Option.bind_eq_bind,
    Option.bind_some, String.ofList_toList]
  rfl

end Steps

variable {p : Decimal.Double → Bool}

mutual

/-- A value is read back from its characters, whatever is behind them that does not go on with a
number. The fuel is enough because each step down leaves a character behind. -/
theorem readValue_chars (readable : ∀ x, p x = true → Readable round x) :
    ∀ (j : Json) {fuel : Nat} {rest : List Char}, j.allFloats p = true →
      j.chars.length ≤ fuel → Stops isNumeric rest →
        readValue round fuel (j.chars ++ rest) = some (j, rest)
  | .null, fuel + 1, rest, _, _, _ => rfl
  | .bool true, fuel + 1, rest, _, _, _ => rfl
  | .bool false, fuel + 1, rest, _, _, _ => rfl
  | .int n, fuel + 1, rest, _, _, stops => readValue_int fuel n stops
  | .float x, fuel + 1, rest, all, _, stops => readValue_float fuel (readable x all) stops
  | .text s, fuel + 1, rest, _, _, _ => readValue_printString fuel s rest
  | .array [], fuel + 1, rest, _, _, _ => rfl
  | .object [], fuel + 1, rest, _, _, _ => rfl
  | .array (item :: items), fuel + 1, rest, all, enough, _ => by
    have first := ((Bool.and_eq_true _ _).mp all).1
    rw [chars_array_cons, List.length_cons, List.length_append, List.length_singleton] at enough
    have read := readItems_chars readable (item :: items) rest all (itemsChars_cons item items)
      (by omega : _ < fuel)
    rw [List.append_assoc] at read
    rw [chars_array_cons, List.cons_append, List.append_assoc, List.append_assoc,
      readValue_array readable fuel first, List.singleton_append, read]
    rfl
  | .object ((name, value) :: members), fuel + 1, rest, all, enough, _ => by
    rw [chars_object_cons, List.length_cons, List.length_append, List.length_singleton] at enough
    have read := readMembers_chars readable ((name, value) :: members) rest all
      (membersChars_cons name value members) (by omega : _ < fuel)
    rw [List.append_assoc] at read
    rw [chars_object_cons, List.cons_append, List.append_assoc, List.append_assoc,
      readValue_object, List.singleton_append, read]
    rfl
  | j, 0, rest, all, enough, _ =>
    absurd (length_chars_pos readable all) (Nat.not_lt.mpr enough)

theorem readItems_chars (readable : ∀ x, p x = true → Readable round x) :
    ∀ (items : List Json) {fuel : Nat} {cs : List Char} (rest : List Char),
      itemsAllFloats p items = true → itemsChars items = ',' :: cs → cs.length < fuel →
        readItems round fuel (cs ++ ']' :: rest) = some (items, rest)
  | [], _, _, _, _, written, _ => nomatch written
  | _ :: _, 0, _, _, _, _, enough => absurd enough (Nat.not_lt_zero _)
  | [item], fuel + 1, cs, rest, all, written, enough => by
    rw [itemsAllFloats, Bool.and_eq_true] at all
    rw [itemsChars, itemsChars, List.append_nil] at written
    obtain ⟨-, rfl⟩ := List.cons.inj written
    exact readItems_last (readValue_chars readable item all.1 (by omega) (stops_cons _ rfl))
  | item :: next :: items, fuel + 1, cs, rest, all, written, enough => by
    rw [itemsAllFloats, Bool.and_eq_true] at all
    have behind := itemsChars_cons next items
    rw [itemsChars_cons, behind] at written
    obtain ⟨-, rfl⟩ := List.cons.inj written
    rw [List.length_append, List.length_cons] at enough
    have further := readItems_chars readable (next :: items) rest all.2 behind (by omega : _ < fuel)
    rw [List.append_assoc]
    exact readItems_more (readValue_chars readable item all.1 (by omega) (stops_cons _ rfl)) further

theorem readMembers_chars (readable : ∀ x, p x = true → Readable round x) :
    ∀ (members : List (String × Json)) {fuel : Nat} {cs : List Char} (rest : List Char),
      membersAllFloats p members = true → membersChars members = ',' :: cs → cs.length < fuel →
        readMembers round fuel (cs ++ '\x7d' :: rest) = some (members, rest)
  | [], _, _, _, _, written, _ => nomatch written
  | _ :: _, 0, _, _, _, _, enough => absurd enough (Nat.not_lt_zero _)
  | [(name, value)], fuel + 1, cs, rest, all, written, enough => by
    rw [membersAllFloats, Bool.and_eq_true] at all
    rw [membersChars_cons, membersChars, List.append_nil] at written
    obtain ⟨-, rfl⟩ := List.cons.inj written
    rw [List.length_append, List.length_cons] at enough
    rw [List.append_assoc]
    exact readMembers_last name (readValue_chars readable value all.1 (by omega) (stops_cons _ rfl))
  | (name, value) :: (next, follower) :: members, fuel + 1, cs, rest, all, written, enough => by
    rw [membersAllFloats, Bool.and_eq_true] at all
    have behind := membersChars_cons next follower members
    rw [membersChars_cons, behind] at written
    obtain ⟨-, rfl⟩ := List.cons.inj written
    rw [List.length_append, List.length_cons, List.length_append, List.length_cons] at enough
    have further := readMembers_chars readable ((next, follower) :: members) rest all.2 behind
      (by omega : _ < fuel)
    rw [List.append_assoc, List.cons_append, List.append_assoc]
    exact readMembers_more name
      (readValue_chars readable value all.1 (by omega) (stops_cons _ rfl)) further

end

/-- A value is read back from its text, if its floating-point numbers are read back from theirs. -/
theorem readWith?_print (readable : ∀ x, p x = true → Readable round x) {j : Json}
    (all : j.allFloats p = true) :
    readWith? round j.print = some j := by
  have read := readValue_chars readable j all (by omega : _ ≤ 2 * j.chars.length + 2)
    (stops_nil isNumeric)
  rw [List.append_nil] at read
  rw [readWith?, print, String.toList_ofList, read]
  rfl

end Reading

/-- A value without floating-point numbers is read back from its text, however numbers are
rounded. -/
theorem readWith?_print_of_floatFree {j : Json} (free : j.floatFree = true) (round : Rounding) :
    readWith? round j.print = some j :=
  readWith?_print (fun _ never => absurd never Bool.false_ne_true) free

end BoundSql.Json
