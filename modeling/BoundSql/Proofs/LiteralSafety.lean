import BoundSql.Proofs.ConstantContents
import BoundSql.Proofs.SketchText
import BoundSql.Proofs.TidySketch

/-!
# String constants stay in their literals

A reader that knows nothing but string literals (`Text.scan`) reads back from a rendered statement
what its sketch says: each string constant as one literal with the same content, and the characters
of all the rest outside of literals. The contents of the constants do not matter; what is assumed is
that no quotes come from elsewhere: neither from the names and the verbatim texts a statement brings
along, the placeholders and the names of the parameters (`QuoteFree`), nor from the names of
functions, aggregates and operators and those that rows are sorted by (`Statement.references`).

`literals_are_constants`: so the literals of the text are the statement's string constants in
reading order, and another statement that differs in these only has the same text outside of them.
A quote in the sign of an operator ends a literal or opens one (`quotes_from_references`).
-/

namespace BoundSql

open Template Sketch Text

/-- What of a mark is written as it is: names, verbatim texts, and the alias before a column. -/
def Mark.names (outer : Scope) : Mark → List String
  | .verbatim text => [text]
  | .column inner c => c.name :: ((inner.within outer).aliasOf c.table).toList
  | _ => []

def Sketch.names (outer : Scope) (s : Sketch) : List String := s.flatMap (Mark.names outer)

/-- The names, aliases and verbatim texts that a statement writes. -/
def Statement.names (scope : Scope) (s : Statement) : List String := s.sketch.names scope

def Mark.references : Mark → List String
  | .reference name => [name]
  | _ => []

def Sketch.references (s : Sketch) : List String := s.flatMap Mark.references

/-- The names of the functions and the aggregates that a statement writes, the signs of its
operators, and what it sorts by. -/
def Statement.references (s : Statement) : List String := s.sketch.references

theorem Column.plain_qualified {inner outer : Scope} {c : Column}
    (plain : ∀ name ∈ (Mark.column inner c).names outer, Plain name) :
    Plain (c.qualified (inner.within outer)) := by
  obtain ⟨name, aliased⟩ := List.forall_mem_cons.mp plain
  unfold Column.qualified
  rcases found : (inner.within outer).aliasOf c.table with _ | a
  · exact name
  · have own : Plain a := aliased a (by simp [found])
    have dot : Plain "." := by decide
    exact plain_append_iff.mpr ⟨plain_append_iff.mpr ⟨own, dot⟩, name⟩

/-! ## Placeholders -/

theorem DataType.plain_jdbcName (t : DataType) : Plain t.jdbcName := by
  cases t <;> decide

/-- The built-in strategies write quotes in no placeholder unless the name has them. -/
theorem Strategy.plain_placeholder {strategy : Strategy} (builtIn : strategy ∈ Strategy.builtIn)
    {b : Binding} (name : Plain b.name) : Plain (strategy.placeholder b) := by
  simp only [Strategy.builtIn, List.mem_cons, List.not_mem_nil, or_false] at builtIn
  rcases builtIn with rfl | rfl | rfl | rfl | rfl
  · exact plain_append_iff.mpr ⟨by decide, plain_toString _⟩
  · exact plain_append_iff.mpr ⟨by decide, name⟩
  · exact plain_append_iff.mpr ⟨by decide, plain_toString _⟩
  · rcases b with ⟨sequence, name, _ | type⟩
    · simp only [Strategy.myBatis, plain_append_iff, name, and_true]
      decide
    · simp only [Strategy.myBatis, plain_append_iff, name, type.plain_jdbcName, and_true]
      decide
  · exact plain_append_iff.mpr ⟨plain_append_iff.mpr ⟨by decide, plain_toString _⟩, by decide⟩

/-- The placeholders of the values, numbered from `n` on, have no quotes. -/
def PlainPlaceholders (config : Config) (n : Nat) (holes : List Hole) : Prop :=
  ∀ (i : Nat) (h : Hole), holes[i]? = some h → Plain (h.placeholder config (n + i))

theorem plainPlaceholders_cons {config : Config} {n : Nat} {h : Hole} {holes : List Hole} :
    PlainPlaceholders config n (h :: holes) ↔
      Plain (h.placeholder config n) ∧ PlainPlaceholders config (n + 1) holes := by
  constructor
  · intro plain
    refine ⟨plain 0 h rfl, ?_⟩
    intro i other found
    rw [Nat.add_assoc, Nat.add_comm 1]
    exact plain (i + 1) other found
  · rintro ⟨first, rest⟩ i other found
    rcases i with _ | i
    · cases found
      exact first
    · have plain := rest i other found
      rwa [Nat.add_assoc, Nat.add_comm 1] at plain

/-! ## Reading a sketch -/

namespace Sketch

variable (config : Config) (outer : Scope)

/-- What a reader of literals sees in a sketch whose values are numbered from `n` on. -/
def lexemes : Nat → Sketch → List Lexeme
  | _, [] => []
  | n, .literal content :: s => .literal content :: lexemes n s
  | n, .hole h :: s => (h.placeholder config n).toList.map .char ++ lexemes (n + 1) s
  | n, .word w :: s => w.toList.map .char ++ lexemes n s
  | n, .verbatim text :: s => text.toList.map .char ++ lexemes n s
  | n, .reference name :: s => name.toList.map .char ++ lexemes n s
  | n, .column inner c :: s => (c.qualified (inner.within outer)).toList.map .char ++ lexemes n s

theorem contents_lexemes (n : Nat) (s : Sketch) :
    Lexeme.contents (lexemes config outer n s) = s.constants := by
  induction s generalizing n with
  | nil => rfl
  | cons m s ih =>
    cases m <;> simp [lexemes, Lexeme.contents, Lexeme.contents_append, Lexeme.contents_map_char,
      ih, Mark.constants]

theorem map_blank_lexemes (f : String → String) (n : Nat) (s : Sketch) :
    (lexemes config outer n (s.mapConstants f)).map Lexeme.blank =
      (lexemes config outer n s).map Lexeme.blank := by
  induction s generalizing n with
  | nil => rfl
  | cons m s ih => cases m <;> simp [lexemes, Mark.mapConstants, Lexeme.blank, ih]

theorem names_mapConstants (f : String → String) (s : Sketch) :
    (s.mapConstants f).names outer = s.names outer := by
  rw [names, mapConstants, List.flatMap_map, names]
  refine congrArg (s.flatMap ·) (funext ?_)
  intro m
  cases m <;> rfl

theorem references_mapConstants (f : String → String) (s : Sketch) :
    (s.mapConstants f).references = s.references := by
  rw [references, mapConstants, List.flatMap_map, references]
  refine congrArg (s.flatMap ·) (funext ?_)
  intro m
  cases m <;> rfl

theorem holes_mapConstants (f : String → String) (s : Sketch) :
    (s.mapConstants f).holes = s.holes := by
  rw [holes, mapConstants, List.flatMap_map, holes]
  refine congrArg (s.flatMap ·) (funext ?_)
  intro m
  cases m <;> rfl

variable {config outer}

/-- No quote follows a literal. -/
theorem Tidy.head?_fill {content : String} {s : Sketch} (h : Tidy (.literal content :: s))
    (config : Config) (outer : Scope) (n : Nat) :
    (fill config n (s.template outer)).toList.head? ≠ some '\'' := by
  rcases s with _ | ⟨m, s⟩
  · simp [template]
  · have before := (List.isChain_cons.mp h.spaced).1 m rfl
    cases m with
    | word w =>
      -- The next character is the first one of the word.
      have plain : Plain w := h.words w (.tail _ (.head _))
      have nonempty : w.toList ≠ [] := fun empty => before (String.toList_eq_nil_iff.mp empty)
      obtain ⟨c, cs, chars⟩ := List.exists_cons_of_ne_nil nonempty
      rw [Plain, chars] at plain
      simp only [template, List.map_cons, Mark.piece, fill_text, String.toList_append, chars,
        List.cons_append, List.head?_cons, ne_eq, Option.some.injEq]
      rintro rfl
      exact plain (.head _)
    | _ => exact before.elim

/-- A reader of literals reads back what the sketch says. -/
theorem scan_fill {s : Sketch} (n : Nat) (tidy : s.Tidy)
    (names : ∀ name ∈ s.names outer, Plain name) (references : ∀ name ∈ s.references, Plain name)
    (placeholders : PlainPlaceholders config n s.holes) :
    scan (fill config n (s.template outer)) = some (s.lexemes config outer n) := by
  induction s generalizing n with
  | nil => rfl
  | cons m s ih =>
    rw [Sketch.names, List.flatMap_cons, List.forall_mem_append] at names
    obtain ⟨own, others⟩ := names
    rw [Sketch.references, List.flatMap_cons, List.forall_mem_append] at references
    obtain ⟨plain, referred⟩ := references
    have rest := fun n => ih n tidy.tail others referred
    cases m with
    | literal content =>
      exact scan_literal_append content (tidy.head?_fill config outer n) (rest n placeholders)
    | hole h =>
      obtain ⟨first, behind⟩ := plainPlaceholders_cons.mp placeholders
      exact scan_append_of_plain first (rest (n + 1) behind)
    | word w => exact scan_append_of_plain (tidy.words w (.head _)) (rest n placeholders)
    | verbatim text => exact scan_append_of_plain (own text (.head _)) (rest n placeholders)
    | reference name => exact scan_append_of_plain (plain name (.head _)) (rest n placeholders)
    | column inner c =>
      exact scan_append_of_plain (Column.plain_qualified own) (rest n placeholders)

end Sketch

/-! ## Rendered statements -/

/-- There are no quotes in the names, aliases and verbatim texts of a statement, in the start of the
parameters' names, and in the placeholders of strategies that are not built in. -/
structure QuoteFree (config : Config) (scope : Scope) (n : Nat) (s : Statement) : Prop where
  names : ∀ name ∈ s.names scope, Plain name
  stem : Plain config.stem
  placeholders : ∀ (i : Nat) (h : Hole), s.holes[i]? = some h →
    h.strategy config ∉ Strategy.builtIn → Plain (h.placeholder config (n + i))

section QuoteFree

variable {config : Config} {scope : Scope} {n : Nat} {s t : Statement}

theorem QuoteFree.plainPlaceholders (h : QuoteFree config scope n s) :
    PlainPlaceholders config n s.holes := by
  intro i hole found
  by_cases builtIn : hole.strategy config ∈ Strategy.builtIn
  · exact Strategy.plain_placeholder builtIn (plain_append_iff.mpr ⟨h.stem, plain_toString _⟩)
  · exact h.placeholders i hole found builtIn

/-- What a statement writes besides its literals does not depend on their contents. -/
theorem Statement.same_of_mapConstants (config : Config) (scope : Scope) (n : Nat)
    {f g : String → String} (same : s.mapConstants f = t.mapConstants g) :
    s.names scope = t.names scope ∧ s.references = t.references ∧ s.holes = t.holes ∧
      (s.sketch.lexemes config scope n).map Lexeme.blank =
        (t.sketch.lexemes config scope n).map Lexeme.blank := by
  have sketches : s.sketch.mapConstants f = t.sketch.mapConstants g := by
    rw [← s.sketch_mapConstants f, ← t.sketch_mapConstants g, same]
  refine ⟨?_, ?_, ?_, ?_⟩
  · rw [Statement.names, Statement.names, ← names_mapConstants scope f, sketches,
      names_mapConstants]
  · rw [Statement.references, Statement.references, ← references_mapConstants f, sketches,
      references_mapConstants]
  · rw [← s.holes_sketch, ← t.holes_sketch, ← holes_mapConstants f, sketches, holes_mapConstants]
  · rw [← map_blank_lexemes config scope f, sketches, map_blank_lexemes]

end QuoteFree

namespace Rendering

variable {config : Config} {scope : Scope} {s : Statement} {start after : Progress} {f : Fragment}

theorem scan_text (clean : QuoteFree config scope start.next s)
    (references : ∀ name ∈ s.references, Plain name)
    (run : (renderStatement config scope s).run start = .ok (f, after)) :
    scan f.text = some (s.sketch.lexemes config scope start.next) := by
  have fills := ((renderStatement_renders_sketch config scope s).ok run).1
  have placeholders := clean.plainPlaceholders
  rw [← s.holes_sketch] at placeholders
  rw [fills.text]
  exact scan_fill start.next s.tidy_sketch clean.names references placeholders

/-- Whatever the contents of a statement's string constants: its text does not end inside a literal,
the literals in it are these constants in reading order, and a statement that differs in the
contents of its string constants only is rendered too, with the same text outside of literals. -/
theorem literals_are_constants (clean : QuoteFree config scope start.next s)
    (references : ∀ name ∈ s.references, Plain name)
    (run : (renderStatement config scope s).run start = .ok (f, after)) :
    ∃ lexemes, scan f.text = some lexemes ∧ Lexeme.contents lexemes = s.constants ∧
      ∀ t : Statement, t.mapConstants (fun _ => "") = s.mapConstants (fun _ => "") →
        ∃ g last others, (renderStatement config scope t).run start = .ok (g, last) ∧
          scan g.text = some others ∧ Lexeme.contents others = t.constants ∧
            others.map Lexeme.blank = lexemes.map Lexeme.blank := by
  refine ⟨_, scan_text clean references run, ?_, ?_⟩
  · rw [contents_lexemes, s.constants_sketch]
  intro t same
  obtain ⟨names, referred, holes, outside⟩ :=
    Statement.same_of_mapConstants config scope start.next same
  have cleanToo : QuoteFree config scope start.next t :=
    ⟨names ▸ clean.names, clean.stem, holes ▸ clean.placeholders⟩
  rcases runToo : (renderStatement config scope t).run start with c | ⟨g, last⟩
  · have clash := (renderStatement_renders scope t).error runToo
    have nodup := ((renderStatement_renders scope s).ok run).1.nodup
    rw [s.holes_template scope, ← holes, ← t.holes_template scope] at nodup
    exact absurd nodup clash
  · refine ⟨g, last, _, rfl, scan_text cleanToo (referred ▸ references) runToo, ?_, outside⟩
    rw [contents_lexemes, t.constants_sketch]

/-- The cities of persons of one name, with string constants in a select list, among the operands of
an operator inside a function, below a condition and in `group by`. -/
def cityQuery (label mark inner last : String) : Statement :=
  let person : Table := ⟨0, "person"⟩
  let column (name : String) : Column := ⟨person, name, .text, none, none⟩
  let cities : Criterion := .existing ⟨[⟨none, false, [⟨.stringConstant inner, none⟩],
    ⟨1, "city"⟩, none, [], [], []⟩], [], none⟩
  .select ⟨[⟨none, false, [⟨.stringConstant label, some "label"⟩, ⟨.function "trim"
      (.operator "~" [.column (column "city"), .stringConstant mark]), none⟩], person, some "p", [],
    [.ofCondition (column "name") (.single .equalTo (.text "O'Brien")), cities.joined .or],
    [.stringConstant last]⟩], [⟨"label", false⟩], none⟩

theorem cityQuery_quoteFree (label mark inner last : String) :
    QuoteFree {} .empty 1 (cityQuery label mark inner last) := by
  refine ⟨?_, by decide, ?_⟩
  · have names : (cityQuery label mark inner last).names .empty =
        (cityQuery "" "" "" "").names .empty := by
      rfl
    rw [names]
    decide +kernel
  · intro i h found own
    rcases i with _ | i
    · cases found
      exact absurd (.head _) own
    · cases found

theorem cityQuery_literals :
    (renderStatement {} .empty (cityQuery "it's" "'" "" "''x")).run {} =
        .ok (⟨"select 'it''s' as label, trim((p.city ~ '''')) from person p where p.name = $1 " ++
          "or exists (select '' from city) group by '''''x' order by label",
          ⟨[("p1", .text "O'Brien")], by simp⟩⟩, ⟨2, []⟩) ∧
      ∃ lexemes, scan ("select 'it''s' as label, trim((p.city ~ '''')) from person p where " ++
          "p.name = $1 or exists (select '' from city) group by '''''x' order by label") =
            some lexemes ∧
        Lexeme.contents lexemes = ["it's", "'", "", "''x"] ∧
          ∃ others, scan ("select 'a' as label, trim((p.city ~ 'b')) from person p where " ++
              "p.name = $1 or exists (select 'c' from city) group by 'd' order by label") =
                some others ∧
            Lexeme.contents others = ["a", "b", "c", "d"] ∧
              others.map Lexeme.blank = lexemes.map Lexeme.blank := by
  have run : (renderStatement {} .empty (cityQuery "it's" "'" "" "''x")).run {} =
      .ok (⟨"select 'it''s' as label, trim((p.city ~ '''')) from person p where p.name = $1 " ++
        "or exists (select '' from city) group by '''''x' order by label",
        ⟨[("p1", .text "O'Brien")], by simp⟩⟩, ⟨2, []⟩) := by
    rfl
  have references : ∀ name ∈ (cityQuery "it's" "'" "" "''x").references, Plain name := by
    decide +kernel
  obtain ⟨lexemes, read, contents, others⟩ :=
    literals_are_constants (cityQuery_quoteFree "it's" "'" "" "''x") references run
  obtain ⟨g, last, plain, runToo, readToo, contentsToo, outside⟩ :=
    others (cityQuery "a" "b" "c" "d") rfl
  cases runToo
  exact ⟨run, lexemes, read, contents, plain, readToo, contentsToo, outside⟩

/-- A select of an expression of persons in a given order. -/
def personsBy (e : Expression) (orderBy : List SortSpec) : Statement :=
  .select ⟨[⟨none, false, [⟨e, none⟩], ⟨0, "person"⟩, none, [], [], []⟩], orderBy, none⟩

/-- A quote in the sign of an operator, or in a name to sort by, leaves the text inside a literal,
though all else is free of quotes. -/
theorem quotes_from_references :
    (QuoteFree {} .empty 1 (personsBy (.operator "'" [.constant "a", .stringConstant "b"]) []) ∧
      ∃ f after, (renderStatement {} .empty
          (personsBy (.operator "'" [.constant "a", .stringConstant "b"]) [])).run {} =
            .ok (f, after) ∧
        f.text = "select (a ' 'b') from person" ∧ scan f.text = none) ∧
    QuoteFree {} .empty 1 (personsBy (.stringConstant "x") [⟨"o'clock", false⟩]) ∧
      ∃ f after, (renderStatement {} .empty
          (personsBy (.stringConstant "x") [⟨"o'clock", false⟩])).run {} = .ok (f, after) ∧
        f.text = "select 'x' from person order by o'clock" ∧ scan f.text = none := by
  have clean : ∀ (e : Expression) (orderBy : List SortSpec),
      (∀ name ∈ (personsBy e orderBy).names .empty, Plain name) →
        QuoteFree {} .empty 1 (personsBy e orderBy) := by
    refine fun e orderBy names => ⟨names, by decide, ?_⟩
    intro i h found
    cases found
  refine ⟨⟨clean _ _ (by decide +kernel), _, _, rfl, rfl, by decide +kernel⟩,
    clean _ _ (by decide +kernel), _, _, rfl, rfl, by decide +kernel⟩

end Rendering

end BoundSql
