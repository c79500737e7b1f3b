import BoundSql.Text.Literal

/-!
# Scanning for string literals

A reader that knows nothing of a text but its string literals: a quote opens a literal, two quotes
inside stand for one, and a single quote closes it. What such a reader sees are the characters
outside of literals and the contents of the literals. A text that ends inside a literal has no
reading.

A written literal is read as what it was made of if no quote follows it (`scan_literal_append`). A
reading is faithful: written out again, it is the text (`flatMap_written_scan`).
-/

namespace BoundSql.Text

/-- A text without quotes. -/
def Plain (s : String) : Prop := '\'' ∉ s.toList

instance (s : String) : Decidable (Plain s) := inferInstanceAs (Decidable (_ ∉ _))

theorem plain_append_iff {s t : String} : Plain (s ++ t) ↔ Plain s ∧ Plain t := by
  simp only [Plain, String.toList_append, List.mem_append, not_or]

theorem plain_toString (n : Nat) : Plain (toString n) := by
  intro quote
  rw [Nat.toString_eq_repr, Nat.toList_repr] at quote
  have digit := Nat.isDigit_of_mem_toDigits (by decide) (by decide) quote
  revert digit
  decide

/-- What a text consists of if only its literals are known. -/
inductive Lexeme where
  | char (c : Char)
  | literal (content : String)
  deriving DecidableEq

namespace Lexeme

/-- The characters of the lexeme. -/
def written : Lexeme → List Char
  | .char c => [c]
  | .literal content => (Text.literal content).toList

/-- The contents of the literals. -/
def contents : List Lexeme → List String
  | [] => []
  | .char _ :: rest => contents rest
  | .literal content :: rest => content :: contents rest

/-- The lexeme without the content of a literal. -/
def blank : Lexeme → Lexeme
  | .char c => .char c
  | .literal _ => .literal ""

theorem contents_append : ∀ l m : List Lexeme, contents (l ++ m) = contents l ++ contents m
  | [], _ => rfl
  | .char _ :: l, m => contents_append l m
  | .literal content :: l, m => congrArg (content :: ·) (contents_append l m)

theorem contents_map_char : ∀ cs : List Char, contents (cs.map .char) = []
  | [] => rfl
  | _ :: cs => contents_map_char cs

end Lexeme

open Lexeme

/-- Where a reader stands, and what of a literal it has read. -/
inductive Place where
  | outside
  | inside (read : List Char)
  /-- Behind a quote that closes the literal unless it is one of two. -/
  | quoted (read : List Char)

/-- What a reader sees from a place on, if the text does not end inside a literal. -/
def scanFrom : Place → List Char → Option (List Lexeme)
  | .outside, [] => some []
  | .inside _, [] => none
  | .quoted read, [] => some [.literal (String.ofList read)]
  | .outside, c :: cs =>
    if c = '\'' then scanFrom (.inside []) cs else (scanFrom .outside cs).map (.char c :: ·)
  | .inside read, c :: cs =>
    if c = '\'' then scanFrom (.quoted read) cs else scanFrom (.inside (read ++ [c])) cs
  | .quoted read, c :: cs =>
    if c = '\'' then scanFrom (.inside (read ++ ['\''])) cs
    else (scanFrom .outside cs).map fun rest => .literal (String.ofList read) :: .char c :: rest

/-- What a reader sees in a text. -/
def scan (text : String) : Option (List Lexeme) := scanFrom .outside text.toList

theorem scanFrom_plain {cs : List Char} (plain : '\'' ∉ cs) (rest : List Char) :
    scanFrom .outside (cs ++ rest) =
      (scanFrom .outside rest).map (cs.map Lexeme.char ++ ·) := by
  induction cs with
  | nil => simp
  | cons c cs ih =>
    rw [List.mem_cons, not_or] at plain
    rw [List.cons_append, scanFrom, if_neg (Ne.symm plain.1), ih plain.2, Option.map_map]
    rfl

theorem scanFrom_inside_escape (content rest : List Char) (read : List Char) :
    scanFrom (.inside read) (Literal.escape content ++ '\'' :: rest) =
      scanFrom (.quoted (read ++ content)) rest := by
  induction content generalizing read with
  | nil => simp [Literal.escape, scanFrom]
  | cons c content ih =>
    by_cases quote : c = '\''
    · subst quote
      simp [Literal.escape, scanFrom, ih]
    · simp [Literal.escape, scanFrom, quote, ih]

theorem scanFrom_quoted {rest : List Char} (next : rest.head? ≠ some '\'') (read : List Char) :
    scanFrom (.quoted read) rest =
      (scanFrom .outside rest).map (.literal (String.ofList read) :: ·) := by
  rcases rest with _ | ⟨c, rest⟩
  · rfl
  · have other : c ≠ '\'' := fun quote => next (congrArg some quote)
    rw [scanFrom, if_neg other, scanFrom, if_neg other, Option.map_map]
    rfl

theorem scan_append_of_plain {s t : String} {lexemes : List Lexeme} (plain : Plain s)
    (rest : scan t = some lexemes) : scan (s ++ t) = some (s.toList.map .char ++ lexemes) := by
  rw [scan] at rest
  rw [scan, String.toList_append, scanFrom_plain plain, rest, Option.map_some]

/-- A written literal is read as one with the same content, unless a quote follows it. -/
theorem scan_literal_append (content : String) {t : String} {lexemes : List Lexeme}
    (next : t.toList.head? ≠ some '\'') (rest : scan t = some lexemes) :
    scan (Text.literal content ++ t) = some (.literal content :: lexemes) := by
  have opened : (Text.literal content ++ t).toList =
      '\'' :: (Literal.escape content.toList ++ '\'' :: t.toList) := by
    simp [Text.literal]
  rw [scan] at rest
  rw [scan, opened, scanFrom, if_pos rfl, scanFrom_inside_escape, scanFrom_quoted next, rest,
    List.nil_append, String.ofList_toList, Option.map_some]

example : scan "it''s 'O''Brien''''' or ''" =
    some ([.char 'i', .char 't', .literal "", .char 's', .char ' ', .literal "O'Brien''"] ++
      " or ".toList.map .char ++ [.literal ""]) := by
  rfl

theorem escape_append (s t : List Char) :
    Literal.escape (s ++ t) = Literal.escape s ++ Literal.escape t := by
  induction s with
  | nil => rfl
  | cons c s ih =>
    rw [List.cons_append, Literal.escape, Literal.escape, ih]
    split <;> rfl

/-- What was read of the text already, for a reader that has not yet told of it. -/
def Place.pending : Place → List Char
  | .outside => []
  | .inside read => '\'' :: Literal.escape read
  | .quoted read => '\'' :: (Literal.escape read ++ ['\''])

theorem flatMap_written_scanFrom (cs : List Char) : ∀ {place : Place} {lexemes : List Lexeme},
    scanFrom place cs = some lexemes → lexemes.flatMap written = place.pending ++ cs := by
  -- What is pending grows with the characters read and is told of when the literal closes.
  induction cs with
  | nil =>
    intro place lexemes h
    rcases place with _ | read | read <;> cases h
    · rfl
    · simp [written, Text.literal, Place.pending]
  | cons c cs ih =>
    intro place lexemes h
    by_cases quote : c = '\''
    · subst quote
      rcases place with _ | read | read <;> rw [scanFrom, if_pos rfl] at h <;> rw [ih h]
      · rfl
      · simp [Place.pending]
      · simp [Place.pending, escape_append, Literal.escape]
    · rcases place with _ | read | read <;> rw [scanFrom, if_neg quote] at h
      · obtain ⟨rest, behind, rfl⟩ := Option.map_eq_some_iff.mp h
        simp [written, ih behind, Place.pending]
      · simp [ih h, Place.pending, escape_append, Literal.escape, quote]
      · obtain ⟨rest, behind, rfl⟩ := Option.map_eq_some_iff.mp h
        simp [written, Text.literal, ih behind, Place.pending]

/-- A reading written out again is the text. -/
theorem flatMap_written_scan {text : String} {lexemes : List Lexeme}
    (h : scan text = some lexemes) : lexemes.flatMap written = text.toList :=
  flatMap_written_scanFrom text.toList h

end BoundSql.Text
