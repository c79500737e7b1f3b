import BoundSql.Expression
import BoundSql.Proofs.CharacterRuns

/-!
# Reading expressions back

A `Formula` is an expression as the usual functions and operators build it. Where its columns and
verbatim constants are written as words, its text says how it is built: `Formula.read` takes it
apart again, with what stands behind it left over. It knows neither tables nor precedence. A word is
read as a constant, whether it was one or a column, so what is read is the formula as it is spelled
(`Formula.spelled`).
-/

namespace BoundSql

namespace Text

/-- Letters of any script, digits, the underscore and the point. All that is beyond ASCII counts as
a letter. -/
def isWordChar (c : Char) : Bool :=
  c.isAlphanum || c == '_' || c == '.' || 128 ≤ c.toNat

/-- The text is a run of letters, digits, underscores and points, and not an empty one. -/
def IsWord (s : String) : Prop := s.toList ≠ [] ∧ ∀ c ∈ s.toList, isWordChar c = true

instance (s : String) : Decidable (IsWord s) :=
  decidable_of_iff (s.toList ≠ [] ∧ s.toList.all isWordChar = true)
    (and_congr_right fun _ => List.all_eq_true)

/-- The content of a literal whose opening quote is read already, and what is behind it. -/
def readContent : List Char → Option (List Char × List Char)
  | [] => none
  | '\'' :: '\'' :: cs => (readContent cs).map fun (s, r) => ('\'' :: s, r)
  | '\'' :: cs => some ([], cs)
  | c :: cs => (readContent cs).map fun (s, r) => (c :: s, r)

theorem readContent_escape (rest : List Char) (next : rest.head? ≠ some '\'') :
    ∀ s : List Char, readContent (Literal.escape s ++ '\'' :: rest) = some (s, rest)
  | [] => by
    rcases rest with _ | ⟨c, rest⟩
    · rfl
    · have other : c ≠ '\'' := fun h => next (congrArg some h)
      rw [Literal.escape, List.nil_append, readContent]
      simpa using other
  | c :: s => by
    have ih := readContent_escape rest next s
    rw [Literal.escape]
    split
    · next quote => rw [List.cons_append, List.cons_append, readContent, ih, quote]; rfl
    · next other =>
      rw [List.cons_append, readContent, ih]
      · rfl
      · exact fun _ h => absurd h other
      · exact fun h => absurd h other

end Text

/-! ## Formulas -/

/-- An expression as the usual functions and operators build it. -/
inductive Formula where
  | column (c : Column)
  | constant (text : String)
  | stringConstant (text : String)
  | call (f : SqlFunction) (argument : Formula)
  | substring (argument : Formula) (offset length : Nat)
  | countAll
  | arithmetic (op : Arithmetic) (left right : Formula)
  | concatenate (parts : List Formula)

/-- What stands before the argument. -/
def SqlFunction.opening : SqlFunction → String
  | .upper => "upper("
  | .lower => "lower("
  | .count => "count("
  | .countDistinct => "count(distinct "
  | .max => "max("
  | .min => "min("
  | .avg => "avg("
  | .sum => "sum("

namespace Formula

mutual

/-- What the functions and operators build. -/
def expression : Formula → Expression
  | .column c => .column c
  | .constant text => .constant text
  | .stringConstant text => .stringConstant text
  | .call f argument => .call f (expression argument)
  | .substring argument offset length => .substring (expression argument) offset length
  | .countAll => .countAll
  | .arithmetic op left right => .arithmetic op (expression left) (expression right)
  | .concatenate parts => .concatenate (expressions parts)

def expressions : List Formula → List Expression
  | [] => []
  | e :: es => expression e :: expressions es

end

/-- The text of the expression. -/
def render (scope : Scope) (e : Formula) : String := e.expression.render scope

def renderAll (scope : Scope) (es : List Formula) : List String :=
  Expression.renderAll scope (expressions es)

section Texts

variable (scope : Scope)

theorem render_call (f : SqlFunction) (argument : Formula) :
    (call f argument).render scope = f.opening ++ argument.render scope ++ ")" := by
  cases f <;> rfl

theorem render_substring (argument : Formula) (offset length : Nat) :
    (substring argument offset length).render scope =
      "substring(" ++ argument.render scope ++ ", " ++ toString offset ++ ", " ++
        toString length ++ ")" := rfl

theorem render_countAll : countAll.render scope = "count(*)" := rfl

theorem render_arithmetic (op : Arithmetic) (left right : Formula) :
    (arithmetic op left right).render scope =
      "(" ++ left.render scope ++ " " ++ op.sign ++ " " ++ right.render scope ++ ")" := by
  change "(" ++ String.intercalate (" " ++ op.sign ++ " ")
    [left.render scope, right.render scope] ++ ")" = _
  rw [String.intercalate_cons_cons, String.intercalate_singleton]
  simp only [String.append_assoc]

theorem render_concatenate (parts : List Formula) :
    (concatenate parts).render scope =
      "(" ++ String.intercalate " || " (renderAll scope parts) ++ ")" := rfl

theorem renderAll_nil : renderAll scope [] = [] := rfl

theorem renderAll_cons (e : Formula) (es : List Formula) :
    renderAll scope (e :: es) = e.render scope :: renderAll scope es := rfl

end Texts

end Formula

/-- The operator that a character stands for. -/
def Arithmetic.ofSign? : Char → Option Arithmetic
  | '+' => some .add
  | '-' => some .subtract
  | '*' => some .multiply
  | '/' => some .divide
  | _ => none

/-- The function that a word stands for, `count` apart. -/
def SqlFunction.ofWord? : String → Option SqlFunction
  | "upper" => some .upper
  | "lower" => some .lower
  | "max" => some .max
  | "min" => some .min
  | "avg" => some .avg
  | "sum" => some .sum
  | _ => none

namespace Formula

/-! ## A reader of formulas -/

section Parts

variable (read : List Char → Option (Formula × List Char))

/-- The argument of a call up to the closing parenthesis. -/
def readArgument (f : SqlFunction) (cs : List Char) : Option (Formula × List Char) :=
  match read cs with
  | some (a, ')' :: r) => some (.call f a, r)
  | _ => none

/-- A number behind a comma. -/
def readNumber : List Char → Option (Nat × List Char)
  | ',' :: ' ' :: cs =>
    let (digits, r) := cs.span Char.isDigit
    some (Decimal.ofDigits 0 digits, r)
  | _ => none

def readSubstring (cs : List Char) : Option (Formula × List Char) := do
  let (a, r) ← read cs
  let (offset, r) ← readNumber r
  let (length, r) ← readNumber r
  match r with
  | ')' :: r => some (.substring a offset length, r)
  | _ => none

def readCount : List Char → Option (Formula × List Char)
  | '*' :: ')' :: r => some (.countAll, r)
  | 'd' :: 'i' :: 's' :: 't' :: 'i' :: 'n' :: 'c' :: 't' :: ' ' :: r =>
    readArgument read .countDistinct r
  | cs => readArgument read .count cs

/-- What follows a word and an opening parenthesis. -/
def readCall (word : String) (cs : List Char) : Option (Formula × List Char) :=
  if word = "substring" then readSubstring read cs
  else if word = "count" then readCount read cs
  else (SqlFunction.ofWord? word).bind fun f => readArgument read f cs

/-- The parts of a concatenation behind the first, up to the closing parenthesis. -/
def readParts : Nat → List Char → Option (List Formula × List Char)
  | 0, _ => none
  | _ + 1, ')' :: r => some ([], r)
  | fuel + 1, ' ' :: '|' :: '|' :: ' ' :: r => do
    let (e, r) ← read r
    let (es, r) ← readParts fuel r
    return (e :: es, r)
  | _ + 1, _ => none

/-- What follows an opening parenthesis without a word. -/
def readOperands (fuel : Nat) : List Char → Option (Formula × List Char)
  | ')' :: r => some (.concatenate [], r)
  | cs =>
    match read cs with
    | some (left, ' ' :: sign :: ' ' :: r) => do
      let op ← Arithmetic.ofSign? sign
      match read r with
      | some (right, ')' :: r) => some (.arithmetic op left right, r)
      | _ => none
    | some (first, r) => (readParts read fuel r).map fun (es, r) => (.concatenate (first :: es), r)
    | none => none

end Parts

/-- The formula at the front of the characters, and what is behind it. -/
def read : Nat → List Char → Option (Formula × List Char)
  | 0, _ => none
  | fuel + 1, cs =>
    match cs.span Text.isWordChar with
    | ([], '\'' :: r) =>
      (Text.readContent r).map fun (s, r) => (.stringConstant (String.ofList s), r)
    | ([], '(' :: r) => readOperands (read fuel) fuel r
    | ([], _) => none
    | (word, '(' :: r) => readCall (read fuel) (String.ofList word) r
    | (word, r) => some (.constant (String.ofList word), r)

/-! ## Formulas as they are spelled -/

mutual

/-- The formula with each column as a constant of the same text. -/
def spelled (scope : Scope) : Formula → Formula
  | .column c => .constant (c.qualified scope)
  | .constant text => .constant text
  | .stringConstant text => .stringConstant text
  | .call f argument => .call f (spelled scope argument)
  | .substring argument offset length => .substring (spelled scope argument) offset length
  | .countAll => .countAll
  | .arithmetic op left right => .arithmetic op (spelled scope left) (spelled scope right)
  | .concatenate parts => .concatenate (spelledAll scope parts)

def spelledAll (scope : Scope) : List Formula → List Formula
  | [] => []
  | e :: es => spelled scope e :: spelledAll scope es

end

mutual

/-- The texts of the columns and of the verbatim constants. -/
def leaves (scope : Scope) : Formula → List String
  | .column c => [c.qualified scope]
  | .constant text => [text]
  | .stringConstant _ => []
  | .call _ argument => leaves scope argument
  | .substring argument _ _ => leaves scope argument
  | .countAll => []
  | .arithmetic _ left right => leaves scope left ++ leaves scope right
  | .concatenate parts => leavesAll scope parts

def leavesAll (scope : Scope) : List Formula → List String
  | [] => []
  | e :: es => leaves scope e ++ leavesAll scope es

end

mutual

theorem render_spelled (scope : Scope) : ∀ e : Formula,
    (e.spelled scope).render scope = e.render scope
  | .column _ => rfl
  | .constant _ => rfl
  | .stringConstant _ => rfl
  | .call f argument => by
    rw [spelled, render_call, render_call, render_spelled scope argument]
  | .substring argument offset length => by
    rw [spelled, render_substring, render_substring, render_spelled scope argument]
  | .countAll => rfl
  | .arithmetic op left right => by
    rw [spelled, render_arithmetic, render_arithmetic, render_spelled scope left,
      render_spelled scope right]
  | .concatenate parts => by
    rw [spelled, render_concatenate, render_concatenate, renderAll_spelledAll scope parts]

theorem renderAll_spelledAll (scope : Scope) : ∀ es : List Formula,
    renderAll scope (spelledAll scope es) = renderAll scope es
  | [] => rfl
  | e :: es => by
    rw [spelledAll, renderAll_cons, renderAll_cons, render_spelled scope e,
      renderAll_spelledAll scope es]

end

/-! ## Reading what is rendered -/

/-- What may stand behind a formula: a parenthesis that closes, a comma or a blank. -/
def Ended (rest : List Char) : Prop := ∀ c ∈ rest.head?, c = ')' ∨ c = ',' ∨ c = ' '

theorem ended_cons {c : Char} (rest : List Char) (h : c = ')' ∨ c = ',' ∨ c = ' ') :
    Ended (c :: rest) := by
  rintro _ ⟨⟩
  exact h

theorem Ended.stops {rest : List Char} (h : Ended rest) : Stops Text.isWordChar rest := by
  intro c hc
  rcases h c hc with rfl | rfl | rfl <;> rfl

section Reading

variable {fuel : Nat} {cs rest : List Char} {a b : Formula}

theorem read_word {word : String} (h : Text.IsWord word) (ended : Ended rest) :
    read (fuel + 1) (word.toList ++ rest) = some (.constant word, rest) := by
  obtain ⟨w, rfl⟩ : ∃ w, word = String.ofList w := ⟨_, String.ofList_toList.symm⟩
  obtain ⟨nonempty, all⟩ := h
  rw [String.toList_ofList] at nonempty all ⊢
  rw [read, span_append_of_stops all ended.stops]
  rcases w with _ | ⟨c, w⟩
  · exact absurd rfl nonempty
  · rcases rest with _ | ⟨d, rest⟩
    · rfl
    · rcases ended d rfl with rfl | rfl | rfl <;> rfl

theorem read_word_call (word : String) (h : Text.IsWord word) :
    read (fuel + 1) (word.toList ++ '(' :: cs) = readCall (read fuel) word cs := by
  obtain ⟨w, rfl⟩ : ∃ w, word = String.ofList w := ⟨_, String.ofList_toList.symm⟩
  obtain ⟨nonempty, all⟩ := h
  rw [String.toList_ofList] at nonempty all ⊢
  rw [read, span_append_of_stops all (stops_cons cs rfl)]
  rcases w with _ | ⟨c, w⟩
  · exact absurd rfl nonempty
  · rfl

theorem span_cons_of_not {c : Char} (h : Text.isWordChar c = false) (cs : List Char) :
    (c :: cs).span Text.isWordChar = ([], c :: cs) :=
  @span_append_of_stops _ [] (c :: cs) (by simp) (stops_cons cs h)

theorem read_parenthesis : read (fuel + 1) ('(' :: cs) = readOperands (read fuel) fuel cs := by
  rw [read, span_cons_of_not rfl]
  rfl

theorem read_literal (text : String) (ended : Ended rest) :
    read (fuel + 1) ((Text.literal text).toList ++ rest) = some (.stringConstant text, rest) := by
  have next : rest.head? ≠ some '\'' := by
    intro quote
    rcases ended _ quote with h | h | h <;> revert h <;> decide
  have opened : (Text.literal text).toList ++ rest =
      '\'' :: (Text.Literal.escape text.toList ++ '\'' :: rest) := by
    simp [Text.literal]
  rw [opened, read, span_cons_of_not rfl]
  simp only [Text.readContent_escape rest next, Option.map_some, String.ofList_toList]

/-- No formula starts with what closes one, or with a star. -/
theorem read_eq_none {c : Char} (h : c = ')' ∨ c = '*') : read fuel (c :: cs) = none := by
  rcases fuel with _ | fuel
  · rfl
  · rcases h with rfl | rfl <;> rw [read, span_cons_of_not rfl] <;> rfl

theorem readArgument_eq (f : SqlFunction) (argument : read fuel cs = some (a, ')' :: rest)) :
    readArgument (read fuel) f cs = some (.call f a, rest) := by
  rw [readArgument, argument]
  rfl

theorem readCount_eq (argument : read fuel cs = some (a, ')' :: rest)) :
    readCount (read fuel) cs = some (.call .count a, rest) := by
  unfold readCount
  split
  · rw [read_eq_none (.inr rfl)] at argument
    cases argument
  · -- the word `distinct` alone is an argument too, but then no blank follows it
    next r =>
    rcases fuel with _ | fuel
    · cases argument
    · have word : read (fuel + 1) ("distinct".toList ++ ' ' :: r) =
          some (.constant "distinct", ' ' :: r) :=
        read_word (by decide) (ended_cons r (.inr (.inr rfl)))
      have same := word.symm.trans argument
      simp at same
  · exact readArgument_eq .count argument

theorem read_call (f : SqlFunction) (argument : read fuel cs = some (a, ')' :: rest)) :
    read (fuel + 1) (f.opening.toList ++ cs) = some (.call f a, rest) := by
  have call (f : SqlFunction) := readArgument_eq f argument
  cases f with
  | upper => exact (read_word_call "upper" (by decide)).trans (call .upper)
  | lower => exact (read_word_call "lower" (by decide)).trans (call .lower)
  | count =>
    exact (read_word_call "count" (by decide)).trans (readCount_eq argument)
  | countDistinct =>
    exact (read_word_call "count" (by decide)).trans (call .countDistinct)
  | max => exact (read_word_call "max" (by decide)).trans (call .max)
  | min => exact (read_word_call "min" (by decide)).trans (call .min)
  | avg => exact (read_word_call "avg" (by decide)).trans (call .avg)
  | sum => exact (read_word_call "sum" (by decide)).trans (call .sum)

theorem readNumber_eq (n : Nat) (stops : Stops Char.isDigit rest) :
    readNumber (", ".toList ++ ((toString n).toList ++ rest)) = some (n, rest) := by
  have digits : (toString n).toList = Nat.toDigits 10 n := by
    rw [Nat.toString_eq_repr, Nat.toList_repr]
  rw [digits]
  change some (Decimal.ofDigits 0 ((Nat.toDigits 10 n ++ rest).span Char.isDigit).1,
    ((Nat.toDigits 10 n ++ rest).span Char.isDigit).2) = _
  rw [span_toDigits_append n stops, ofDigits_toDigits]

theorem readSubstring_eq {offset length : Nat}
    (argument : read fuel cs = some (a, ", ".toList ++ ((toString offset).toList ++
      (", ".toList ++ ((toString length).toList ++ ')' :: rest))))) :
    readSubstring (read fuel) cs = some (.substring a offset length, rest) := by
  have second : readNumber (", ".toList ++ ((toString length).toList ++ ')' :: rest)) = _ :=
    readNumber_eq length (stops_cons rest rfl)
  have first : readNumber (", ".toList ++ ((toString offset).toList ++
      (", ".toList ++ ((toString length).toList ++ ')' :: rest)))) = _ :=
    readNumber_eq offset (stops_cons _ rfl)
  simp only [readSubstring, argument, first, second, Option.bind_eq_bind, Option.bind_some]

theorem readOperands_arithmetic {op : Arithmetic} {cs' : List Char} {n : Nat}
    (first : read fuel cs = some (a, " ".toList ++ (op.sign.toList ++ (" ".toList ++ cs'))))
    (second : read fuel cs' = some (b, ')' :: rest)) :
    readOperands (read fuel) n cs = some (.arithmetic op a b, rest) := by
  unfold readOperands
  split
  · rw [read_eq_none (.inl rfl)] at first
    cases first
  · rw [first]
    cases op <;> simp [Arithmetic.sign, Arithmetic.ofSign?, second]

theorem readParts_cons {cs' : List Char} {es : List Formula} {n : Nat}
    (first : read fuel cs = some (a, cs'))
    (others : readParts (read fuel) n cs' = some (es, rest)) :
    readParts (read fuel) (n + 1) (" || ".toList ++ cs) = some (a :: es, rest) := by
  change readParts (read fuel) (n + 1) (' ' :: '|' :: '|' :: ' ' :: cs) = _
  simp only [readParts, first, others, Option.bind_eq_bind, Option.bind_some, Option.pure_def]

theorem readParts_eq_none {sign : Char} (n : Nat) :
    readParts (read fuel) n (' ' :: sign :: ' ' :: cs) = none := by
  rcases n with _ | n
  · rfl
  · rw [readParts]
    · exact fun _ h => by cases h
    · exact fun _ h => by cases h

theorem readOperands_concatenate {cs' : List Char} {es : List Formula}
    (first : read fuel cs = some (a, cs'))
    (others : readParts (read fuel) fuel cs' = some (es, rest)) :
    readOperands (read fuel) fuel cs = some (.concatenate (a :: es), rest) := by
  unfold readOperands
  split
  · rw [read_eq_none (.inl rfl)] at first
    cases first
  · rw [first]
    split
    · -- one character between blanks is a sign, and what parts are joined with is two
      next h =>
      cases h
      rw [readParts_eq_none] at others
      cases others
    · next h =>
      cases h
      rw [others]
      rfl
    · next h => cases h

end Reading

/-- The parts of a concatenation behind the first. -/
def partsChars (scope : Scope) : List Formula → List Char
  | [] => []
  | e :: es => " || ".toList ++ ((e.render scope).toList ++ partsChars scope es)

theorem toList_intercalate_renderAll (scope : Scope) (e : Formula) : ∀ es : List Formula,
    (String.intercalate " || " (renderAll scope (e :: es))).toList =
      (e.render scope).toList ++ partsChars scope es
  | [] => by simp [renderAll_cons, renderAll_nil, partsChars]
  | f :: es => by
    have ih := toList_intercalate_renderAll scope f es
    rw [renderAll_cons] at ih ⊢
    rw [renderAll_cons, String.intercalate_cons_cons, String.toList_append, String.toList_append,
      ih, partsChars, List.append_assoc]

theorem ended_partsChars (scope : Scope) (rest : List Char) : ∀ es : List Formula,
    Ended (partsChars scope es ++ ')' :: rest)
  | [] => ended_cons rest (.inl rfl)
  | _ :: _ => ended_cons _ (.inr (.inr rfl))

mutual

/-- What is rendered is read back as it is spelled. -/
theorem read_render (scope : Scope) : ∀ (e : Formula) {rest : List Char} {fuel : Nat},
    (∀ t ∈ e.leaves scope, Text.IsWord t) → Ended rest →
      (e.render scope).toList.length < fuel →
        read fuel ((e.render scope).toList ++ rest) = some (e.spelled scope, rest)
  | .column c, rest, fuel + 1, words, ended, _ =>
    read_word (words _ (List.mem_singleton_self _)) ended
  | .constant text, rest, fuel + 1, words, ended, _ =>
    read_word (words _ (List.mem_singleton_self _)) ended
  | .stringConstant text, rest, fuel + 1, _, ended, _ => read_literal text ended
  | .call f argument, rest, fuel + 1, words, _, enough => by
    have opening : 0 < f.opening.toList.length := by cases f <;> decide
    have closing : (")".toList).length = 1 := rfl
    simp only [render_call, String.toList_append, List.length_append] at enough
    have inner : read fuel ((argument.render scope).toList ++ ')' :: rest) = _ :=
      read_render scope argument words (ended_cons rest (.inl rfl)) (by omega)
    simp only [render_call, String.toList_append, List.append_assoc]
    exact read_call f inner
  | .substring argument offset length, rest, fuel + 1, words, _, enough => by
    have opening : 0 < ("substring(".toList).length := by decide
    simp only [render_substring, String.toList_append, List.length_append] at enough
    have inner : read fuel ((argument.render scope).toList ++ (", ".toList ++
        ((toString offset).toList ++ (", ".toList ++ ((toString length).toList ++ ')' :: rest))))) =
          _ := read_render scope argument words (ended_cons _ (.inr (.inl rfl))) (by omega)
    simp only [render_substring, String.toList_append, List.append_assoc]
    exact (read_word_call "substring" (by decide)).trans (readSubstring_eq inner)
  | .countAll, rest, fuel + 1, _, _, _ => by
    have call : read (fuel + 1) ("count".toList ++ '(' :: '*' :: ')' :: rest) = _ :=
      read_word_call "count" (by decide)
    rw [render_countAll]
    exact call
  | .arithmetic op left right, rest, fuel + 1, words, ended, enough => by
    rw [leaves, List.forall_mem_append] at words
    have blank : (" ".toList).length = 1 := rfl
    simp only [render_arithmetic, String.toList_append, List.length_append] at enough
    have second : read fuel ((right.render scope).toList ++ ')' :: rest) = _ :=
      read_render scope right words.2 (ended_cons rest (.inl rfl)) (by omega)
    have first : read fuel ((left.render scope).toList ++ (" ".toList ++ (op.sign.toList ++
        (" ".toList ++ ((right.render scope).toList ++ ')' :: rest))))) = _ :=
      read_render scope left words.1 (ended_cons _ (.inr (.inr rfl))) (by omega)
    simp only [render_arithmetic, String.toList_append, List.append_assoc]
    exact read_parenthesis.trans (readOperands_arithmetic first second)
  | .concatenate [], rest, fuel + 1, _, _, _ => by
    have text : (render scope (.concatenate [])).toList = ['(', ')'] := by
      simp [render_concatenate, renderAll_nil]
    rw [text]
    exact read_parenthesis
  | .concatenate (e :: es), rest, fuel + 1, words, _, enough => by
    rw [leaves, leavesAll, List.forall_mem_append] at words
    have opening : ("(".toList).length = 1 := rfl
    simp only [render_concatenate, String.toList_append, toList_intercalate_renderAll,
      List.length_append] at enough
    have first : read fuel ((e.render scope).toList ++ (partsChars scope es ++ ')' :: rest)) = _ :=
      read_render scope e words.1 (ended_partsChars scope rest es) (by omega)
    have others : readParts (read fuel) fuel (partsChars scope es ++ ')' :: rest) = _ :=
      readParts_renderAll scope es words.2 (by omega) (by omega)
    simp only [render_concatenate, String.toList_append, toList_intercalate_renderAll,
      List.append_assoc]
    exact read_parenthesis.trans (readOperands_concatenate first others)

theorem readParts_renderAll (scope : Scope) : ∀ (es : List Formula) {rest : List Char}
    {fuel n : Nat}, (∀ t ∈ leavesAll scope es, Text.IsWord t) →
      (partsChars scope es).length < n → (partsChars scope es).length < fuel →
        readParts (read fuel) n (partsChars scope es ++ ')' :: rest) =
          some (spelledAll scope es, rest)
  | [], rest, fuel, n + 1, _, _, _ => rfl
  | e :: es, rest, fuel, n + 1, words, more, enough => by
    rw [leavesAll, List.forall_mem_append] at words
    have opening : (" || ".toList).length = 4 := rfl
    simp only [partsChars, List.length_append] at more enough
    have first : read fuel ((e.render scope).toList ++ (partsChars scope es ++ ')' :: rest)) = _ :=
      read_render scope e words.1 (ended_partsChars scope rest es) (by omega)
    have others : readParts (read fuel) n (partsChars scope es ++ ')' :: rest) = _ :=
      readParts_renderAll scope es words.2 (by omega) (by omega)
    simp only [partsChars, List.append_assoc]
    exact readParts_cons first others

end

/-- Of two formulas whose columns and verbatim constants are written as words, the texts are
equal exactly if they are spelled alike: built in the same way, with leaves of equal text in equal
places and string constants of equal content. Thus no text leaves it to precedence how operators
are nested. -/
theorem render_eq_iff (scope : Scope) {e f : Formula}
    (words : ∀ t ∈ e.leaves scope, Text.IsWord t) (words' : ∀ t ∈ f.leaves scope, Text.IsWord t) :
    e.expression.render scope = f.expression.render scope ↔ e.spelled scope = f.spelled scope := by
  change e.render scope = f.render scope ↔ _
  constructor
  · intro same
    have ended : Ended [] := by
      intro c hc
      cases hc
    have first := read_render scope e words ended (Nat.lt_succ_self _)
    have second := read_render scope f words' ended (Nat.lt_succ_self _)
    rw [same, second, Option.some.injEq, Prod.mk.injEq] at first
    exact first.1.symm
  · intro spelled
    rw [← render_spelled scope e, spelled, render_spelled]

/-- Persons under an alias. -/
def persons : Scope := ⟨[[(⟨0, "person"⟩, "p")]]⟩

/-- The age less the difference of two constants. -/
def lessDifference : Formula :=
  .arithmetic .subtract (.column ⟨⟨0, "person"⟩, "age", .integer, none, none⟩)
    (.arithmetic .subtract (.constant "n") (.constant "2"))

/-- The same three, the age written out, with the first two subtracted first. -/
def differenceLess : Formula :=
  .arithmetic .subtract (.arithmetic .subtract (.constant "p.age") (.constant "n")) (.constant "2")

theorem render_lessDifference_ne :
    (∀ t ∈ lessDifference.leaves persons, Text.IsWord t) ∧
      (∀ t ∈ differenceLess.leaves persons, Text.IsWord t) ∧
      lessDifference.expression.render persons ≠ differenceLess.expression.render persons := by
  have words : ∀ t ∈ lessDifference.leaves persons, Text.IsWord t := by decide
  have words' : ∀ t ∈ differenceLess.leaves persons, Text.IsWord t := by decide
  refine ⟨words, words', ?_⟩
  intro same
  have spelled := (render_eq_iff persons words words').mp same
  simp [lessDifference, differenceLess, Formula.spelled] at spelled

end Formula

end BoundSql
