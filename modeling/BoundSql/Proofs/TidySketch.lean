import BoundSql.Proofs.Elision
import BoundSql.Proofs.LiteralScan
import BoundSql.Proofs.Sketch
import Mathlib.Data.List.Chain

/-!
# Sketches of statements are tidy

A literal that stands at the end of a text, or in front of something that is no quote, can be told
from what follows it. In the sketch of a statement nothing follows a literal but a word of the
language that is not empty, and no word has quotes (`Statement.tidy_sketch`).
-/

namespace BoundSql

open Sketch Text

/-- What may stand behind what: a literal is followed by a word that is not empty. -/
def Mark.Before : Mark → Mark → Prop
  | .literal _, .word w => w ≠ ""
  | .literal _, _ => False
  | _, _ => True

/-- A word without quotes that is not empty. -/
def Solid (w : String) : Prop := Plain w ∧ w ≠ ""

instance (w : String) : Decidable (Solid w) := inferInstanceAs (Decidable (_ ∧ _))

namespace Sketch

/-- Literals can be told from what stands behind them. -/
structure Tidy (s : Sketch) : Prop where
  words : ∀ w, .word w ∈ s → Plain w
  spaced : s.IsChain Mark.Before

/-- The sketch is empty or starts with a word that is not. -/
def Opened (s : Sketch) : Prop := ∀ m ∈ s.head?, ∃ w, m = .word w ∧ w ≠ ""

variable {s t : Sketch} {w : String}

@[simp]
theorem opened_nil : Opened [] := by
  simp [Opened]

@[simp]
theorem opened_word_cons : Opened (.word w :: s) ↔ w ≠ "" := by
  simp [Opened]

theorem Opened.append (hs : s.Opened) (ht : t.Opened) : (s ++ t).Opened := by
  rcases s with _ | ⟨m, s⟩
  · exact ht
  · exact hs

theorem Tidy.tail {m : Mark} (h : Tidy (m :: s)) : s.Tidy :=
  ⟨fun w mem => h.words w (.tail _ mem), (List.isChain_cons.mp h.spaced).2⟩

@[simp]
theorem tidy_nil : Tidy [] := ⟨by simp, .nil⟩

@[simp]
theorem tidy_literal (content : String) : Tidy [.literal content] := ⟨by simp, .singleton _⟩

@[simp]
theorem tidy_word_cons : Tidy (.word w :: s) ↔ Plain w ∧ s.Tidy := by
  constructor
  · intro h
    exact ⟨h.words w (.head _), h.tail⟩
  · rintro ⟨plain, words, spaced⟩
    refine ⟨?_, List.isChain_cons.mpr ⟨fun _ _ => trivial, spaced⟩⟩
    simpa [plain] using words

theorem tidy_cons_of_ne {m : Mark} (word : ∀ w, m ≠ .word w) (literal : ∀ c, m ≠ .literal c) :
    Tidy (m :: s) ↔ s.Tidy := by
  refine ⟨Tidy.tail, ?_⟩
  rintro ⟨words, spaced⟩
  refine ⟨?_, List.isChain_cons.mpr ⟨?_, spaced⟩⟩
  · intro v mem
    rcases List.mem_cons.mp mem with same | mem
    · exact absurd same.symm (word v)
    · exact words v mem
  · intro next _
    cases m with
    | literal c => exact absurd rfl (literal c)
    | _ => trivial

@[simp]
theorem tidy_verbatim_cons {name : String} : Tidy (.verbatim name :: s) ↔ s.Tidy :=
  tidy_cons_of_ne (by simp) (by simp)

@[simp]
theorem tidy_reference_cons {name : String} : Tidy (.reference name :: s) ↔ s.Tidy :=
  tidy_cons_of_ne (by simp) (by simp)

@[simp]
theorem tidy_column_cons {inner : Scope} {c : Column} : Tidy (.column inner c :: s) ↔ s.Tidy :=
  tidy_cons_of_ne (by simp) (by simp)

@[simp]
theorem tidy_hole_cons {h : Hole} : Tidy (.hole h :: s) ↔ s.Tidy :=
  tidy_cons_of_ne (by simp) (by simp)

theorem Tidy.append (hs : s.Tidy) (ht : t.Tidy) (opened : t.Opened) : (s ++ t).Tidy := by
  refine ⟨?_, List.isChain_append.mpr ⟨hs.spaced, ht.spaced, ?_⟩⟩
  · intro w mem
    exact (List.mem_append.mp mem).elim (hs.words w) (ht.words w)
  · intro m _ next head
    obtain ⟨w, rfl, nonempty⟩ := opened next head
    cases m <;> first | exact nonempty | trivial

theorem Tidy.append_word (hs : s.Tidy) (solid : Solid w) (ht : t.Tidy) :
    (s ++ .word w :: t).Tidy :=
  hs.append (tidy_word_cons.mpr ⟨solid.1, ht⟩) (opened_word_cons.mpr solid.2)

theorem Tidy.between {opening closing : String} (hs : s.Tidy) (plain : Plain opening)
    (solid : Solid closing) : (between opening s closing).Tidy :=
  tidy_word_cons.mpr ⟨plain, hs.append_word solid tidy_nil⟩

theorem Tidy.intercalate {separator : Sketch}
    (before : ∀ rest : Sketch, rest.Tidy → (separator ++ rest).Tidy ∧ (separator ++ rest).Opened) :
    ∀ {parts : List Sketch}, (∀ part ∈ parts, part.Tidy) → Tidy (List.intercalate separator parts)
  | [], _ => tidy_nil
  | [part], h => by simpa using h
  | part :: next :: parts, h => by
    obtain ⟨first, rest⟩ := List.forall_mem_cons.mp h
    obtain ⟨tidy, opened⟩ := before _ (Tidy.intercalate before rest)
    rw [List.intercalate_cons_cons, List.append_assoc]
    exact first.append tidy opened

theorem Tidy.join {separator : String} (solid : Solid separator) {parts : List Sketch}
    (h : ∀ part ∈ parts, part.Tidy) : (join separator parts).Tidy := by
  refine Tidy.intercalate (fun rest tidy => ?_) h
  exact ⟨tidy_word_cons.mpr ⟨solid.1, tidy⟩, opened_word_cons.mpr solid.2⟩

theorem Tidy.joinBySign (sign : String) {parts : List Sketch} (h : ∀ part ∈ parts, part.Tidy) :
    (joinBySign sign parts).Tidy := by
  have blank : Solid " " := by decide
  refine Tidy.intercalate (fun rest tidy => ?_) h
  have behind : Tidy (.reference sign :: .word " " :: rest) :=
    tidy_reference_cons.mpr (tidy_word_cons.mpr ⟨blank.1, tidy⟩)
  exact ⟨tidy_word_cons.mpr ⟨blank.1, behind⟩, opened_word_cons.mpr blank.2⟩

end Sketch

/-! ## Expressions and heads -/

theorem Operator.solid_behind (op : Operator) : Solid (" " ++ op.keyword) := by
  cases op <;> decide

theorem Connector.solid_between (k : Connector) : Solid (" " ++ k.keyword ++ " ") := by
  cases k <;> decide

theorem JoinKind.plain_before (k : JoinKind) : Plain (k.keyword ++ " ") := by
  cases k <;> decide

theorem UnionKind.plain_before (u : UnionKind) : Plain (u.keyword ++ " ") := by
  cases u <;> decide

theorem tidy_map {ι : Type} {sketch : ι → Sketch} (h : ∀ i, (sketch i).Tidy) (l : List ι) :
    ∀ part ∈ l.map sketch, part.Tidy :=
  List.forall_mem_map.mpr fun i _ => h i

/-- Parts behind a word, with commas between them. -/
theorem tidy_listed {parts : List Sketch} {w : String} (plain : Plain w)
    (h : ∀ part ∈ parts, part.Tidy) : Tidy (.word w :: join ", " parts) :=
  tidy_word_cons.mpr ⟨plain, Tidy.join (by decide) h⟩

section Heads

variable (inner : Scope)

mutual

theorem Expression.tidy_sketch : ∀ e : Expression, (e.sketch inner).Tidy
  | .column _ => by simp [Expression.sketch]
  | .constant _ => by simp [Expression.sketch]
  | .stringConstant content => tidy_literal content
  | .function name argument =>
    tidy_reference_cons.mpr ((Expression.tidy_sketch argument).between (by decide) (by decide))
  | .substring argument offset length => by
    have closing : Plain (", " ++ toString offset ++ ", " ++ toString length ++ ")") := by
      simp only [plain_append_iff, plain_toString, and_true]
      decide
    exact (Expression.tidy_sketch argument).between (by decide) ⟨closing, by simp⟩
  | .aggregate name none _ => by
    simp only [Expression.sketch, tidy_reference_cons, tidy_word_cons, tidy_nil, and_true]
    decide
  | .aggregate name (some argument) distinct => by
    have opening : Plain (if distinct then "(distinct " else "(") := by
      cases distinct <;> decide
    exact tidy_reference_cons.mpr ((Expression.tidy_sketch argument).between opening (by decide))
  | .operator sign operands => by
    have joined := Tidy.joinBySign sign (Expression.tidy_sketchAll operands)
    exact joined.between (by decide) (by decide)

theorem Expression.tidy_sketchAll : ∀ es : List Expression,
    ∀ part ∈ Expression.sketchAll inner es, part.Tidy
  | [] => by simp [Expression.sketchAll]
  | e :: es => by
    rw [Expression.sketchAll, List.forall_mem_cons]
    exact ⟨Expression.tidy_sketch e, Expression.tidy_sketchAll es⟩

end

theorem SelectItem.tidy_sketch (item : SelectItem) : (item.sketch inner).Tidy := by
  rcases item with ⟨e, _ | a⟩
  · exact (e.tidy_sketch inner).append tidy_nil opened_nil
  · exact (e.tidy_sketch inner).append_word (by decide) (tidy_verbatim_cons.mpr tidy_nil)

theorem tidy_tableSketch (table : Table) (asName : Option String) :
    (tableSketch table asName).Tidy := by
  rcases asName with _ | a
  · simp [tableSketch]
  · simp only [tableSketch, tidy_word_cons, tidy_verbatim_cons, tidy_nil, and_true]
    decide

theorem JoinCriterion.tidy_sketch (c : JoinCriterion) : (c.sketch inner).Tidy := by
  have equal : Plain " = " := by decide
  rcases c with ⟨_ | k, left, right⟩
  · simp only [JoinCriterion.sketch, tidy_word_cons, tidy_column_cons, tidy_nil, and_true, equal]
    decide
  · simp only [JoinCriterion.sketch, tidy_word_cons, tidy_column_cons, tidy_nil, and_true, equal,
      k.solid_between.1]

theorem JoinCriterion.opened_sketch (c : JoinCriterion) : (c.sketch inner).Opened := by
  simp [JoinCriterion.sketch]

theorem Join.tidy_sketch (j : Join) : (j.sketch inner).Tidy := by
  have criteria : ∀ cs : List JoinCriterion,
      Tidy (cs.flatMap (JoinCriterion.sketch inner)) ∧
        Opened (cs.flatMap (JoinCriterion.sketch inner)) := by
    intro cs
    induction cs with
    | nil => exact ⟨tidy_nil, opened_nil⟩
    | cons c cs ih =>
      rw [List.flatMap_cons]
      exact ⟨(c.tidy_sketch inner).append ih.1 ih.2, (c.opened_sketch inner).append ih.2⟩
  obtain ⟨tidy, opened⟩ := criteria j.criteria
  exact tidy_word_cons.mpr ⟨j.kind.plain_before,
    (tidy_tableSketch j.table j.asName).append tidy opened⟩

theorem tidy_headSketches (distinct : Bool) (items : List SelectItem) (table : Table)
    (asName : Option String) (joins : List Join) :
    ∀ part ∈ headSketches inner distinct items table asName joins, part.Tidy := by
  have select : Plain ("select " ++ if distinct then "distinct " else "") := by
    cases distinct <;> decide
  rw [headSketches, List.forall_mem_cons, List.forall_mem_cons]
  refine ⟨tidy_listed select (tidy_map (SelectItem.tidy_sketch inner) items), ?_,
    tidy_map (Join.tidy_sketch inner) joins⟩
  exact tidy_word_cons.mpr ⟨by decide, tidy_tableSketch table asName⟩

theorem tidy_groupBySketches (groupBy : List Expression) :
    ∀ part ∈ groupBySketches inner groupBy, part.Tidy := by
  rcases groupBy with _ | ⟨e, es⟩
  · simp [groupBySketches]
  · rw [groupBySketches, List.isEmpty_cons, if_neg Bool.false_ne_true, List.forall_mem_singleton]
    exact tidy_listed (by decide) (tidy_map (Expression.tidy_sketch inner) (e :: es))

theorem SortSpec.tidy_sketch (s : SortSpec) : s.sketch.Tidy := by
  rcases s with ⟨name, _ | _⟩
  · simp [SortSpec.sketch]
  · simp only [SortSpec.sketch, if_true, tidy_reference_cons, tidy_word_cons, tidy_nil, and_true]
    decide

theorem tidy_orderBySketches (orderBy : List SortSpec) :
    ∀ part ∈ orderBySketches orderBy, part.Tidy := by
  rcases orderBy with _ | ⟨s, ss⟩
  · simp [orderBySketches]
  · rw [orderBySketches, List.isEmpty_cons, if_neg Bool.false_ne_true, List.forall_mem_singleton]
    exact tidy_listed (by decide) (tidy_map SortSpec.tidy_sketch (s :: ss))

theorem Paging.tidy_sketch (p : Paging) : p.sketch.Tidy := by
  rcases p with ⟨_, _ | _⟩ | ⟨_ | _, _ | _⟩ <;>
    simp only [Paging.sketch, Paging.template, Template.ofText, List.map_cons, List.map_nil,
      Piece.mark, tidy_word_cons, tidy_hole_cons, tidy_nil, and_true] <;>
    decide

theorem tidy_leftSketch (column : Column) (upper : Bool) (op : Operator) :
    (leftSketch inner column upper op).Tidy := by
  have own : Tidy [.column inner column] := by simp
  refine Tidy.append_word ?_ op.solid_behind tidy_nil
  cases upper
  · exact own
  · exact own.between (by decide) (by decide)

end Heads

/-! ## Where clauses -/

mutual

theorem Item.tidy_tokens : ∀ i : Item Sketch, (∀ a ∈ i.atoms, a.Tidy) →
    (tokensSketch i.tokens).Tidy
  | .atom a, h => by
    simpa [Item.tokens, tokensSketch, Token.sketch, Item.atoms] using h
  | .group first (k, second) rest, h => by
    simp only [Item.atoms, List.forall_mem_append] at h
    have head := Item.tidy_tokens first h.1
    have next := Item.tidy_tokens second h.2.1
    obtain ⟨behind, opened⟩ := tidy_tailTokens rest h.2.2
    -- Built from the back, as each part must be tidy with a word behind it.
    have last : Tidy [.word ")"] := by
      simp only [tidy_word_cons, tidy_nil, and_true]
      decide
    have closing : Opened [.word ")"] := opened_word_cons.mpr (by decide)
    have ended := next.append (behind.append last closing) (opened.append closing)
    have joined := head.append_word k.solid_between ended
    have whole := tidy_word_cons.mpr ⟨(by decide : Plain "("), joined⟩
    simpa [Item.tokens, tokensSketch_append, tokensSketch_cons, Token.sketch, tokensSketch]
      using whole

theorem tidy_tailTokens : ∀ rest : List (Connector × Item Sketch), (∀ a ∈ tailAtoms rest, a.Tidy) →
    (tokensSketch (tailTokens rest)).Tidy ∧ (tokensSketch (tailTokens rest)).Opened
  | [], _ => ⟨tidy_nil, opened_nil⟩
  | (k, i) :: rest, h => by
    rw [tailAtoms, List.forall_mem_append] at h
    have head := Item.tidy_tokens i h.1
    obtain ⟨behind, opened⟩ := tidy_tailTokens rest h.2
    rw [tailTokens, tokensSketch_cons, tokensSketch_append]
    exact ⟨tidy_word_cons.mpr ⟨k.solid_between.1, head.append behind opened⟩,
      opened_word_cons.mpr k.solid_between.2⟩

end

theorem tidy_whereSketch {outlines : List (Outline Sketch)}
    (h : ∀ a ∈ outlinesAtoms outlines, a.Tidy) :
    ∀ part ∈ (whereSketch outlines).toList, part.Tidy := by
  rw [← tailAtoms_itemsOf] at h
  rw [whereSketch, Clause.elided]
  rcases items : itemsOf outlines with _ | ⟨⟨k, first⟩, rest⟩
  · simp
  · rw [items, tailAtoms, List.forall_mem_append] at h
    obtain ⟨behind, opened⟩ := tidy_tailTokens rest h.2
    have clause := (Item.tidy_tokens first h.1).append behind opened
    rw [← tokensSketch_append] at clause
    rw [Option.map_some, Option.toList_some, List.forall_mem_singleton]
    exact tidy_word_cons.mpr ⟨by decide, clause⟩

/-! ## Queries and statements -/

mutual

theorem Criterion.tidy_outline (inner : Scope) : ∀ c : Criterion,
    ∀ a ∈ (c.outline inner).atoms, a.Tidy
  | ⟨_, test, children⟩ => by
    rw [Criterion.outline, Outline.atoms, List.forall_mem_append]
    exact ⟨Test.tidy_sketch inner test, tidy_criteriaOutlines inner children⟩

theorem tidy_criteriaOutlines (inner : Scope) : ∀ cs : List Criterion,
    ∀ a ∈ outlinesAtoms (criteriaOutlines inner cs), a.Tidy
  | [] => by simp [criteriaOutlines, outlinesAtoms]
  | c :: cs => by
    rw [criteriaOutlines, outlinesAtoms, List.forall_mem_append]
    exact ⟨Criterion.tidy_outline inner c, tidy_criteriaOutlines inner cs⟩

theorem Test.tidy_sketch (inner : Scope) : ∀ t : Test, ∀ a ∈ (t.sketch inner).toList, a.Tidy
  | .column column ⟨operator, operand, upper, _⟩ => by
    have left := tidy_leftSketch inner column upper operator
    rw [Test.sketch]
    exact tidy_operandSketch inner column left operand
  | .existence query negated => by
    have opening : Plain ((if negated then "not exists" else "exists") ++ " (") := by
      cases negated <;> decide
    rw [Test.sketch, Option.toList_some, List.forall_mem_singleton]
    exact (Select.tidy_sketch inner query).between opening (by decide)
  | .group => by simp [Test.sketch]

theorem tidy_operandSketch (inner : Scope) (column : Column) {left : Sketch} (tidy : left.Tidy) :
    ∀ o : Operand Select Value, ∀ a ∈ (operandSketch inner column left o).toList, a.Tidy
  | .noValue true => by simpa [operandSketch] using tidy
  | .noValue false => by simp [operandSketch]
  | .single none => by simp [operandSketch]
  | .single (some v) => by
    rw [operandSketch, Option.toList_some, List.forall_mem_singleton]
    exact tidy.append_word (by decide) (tidy_hole_cons.mpr tidy_nil)
  | .pair none => by simp [operandSketch]
  | .pair (some (a, b)) => by
    rw [operandSketch, Option.toList_some, List.forall_mem_singleton]
    refine tidy.append_word (by decide) ?_
    simp only [tidy_word_cons, tidy_hole_cons, tidy_nil, and_true]
    decide
  | .list [] => by simp [operandSketch]
  | .list (v :: vs) => by
    have holes := tidy_map (fun v => (by simp : Tidy [.hole ⟨some column, v⟩])) (v :: vs)
    have listed : (join "," ((v :: vs).map fun v => [.hole ⟨some column, v⟩])).Tidy :=
      Tidy.join (by decide) holes
    rw [operandSketch, Option.toList_some, List.forall_mem_singleton]
    exact tidy.append_word (by decide) (listed.append_word (by decide) tidy_nil)
  | .column none => by simp [operandSketch]
  | .column (some other) => by
    rw [operandSketch, Option.toList_some, List.forall_mem_singleton]
    exact tidy.append_word (by decide) (tidy_column_cons.mpr tidy_nil)
  | .select none => by simp [operandSketch]
  | .select (some query) => by
    rw [operandSketch, Option.toList_some, List.forall_mem_singleton]
    exact tidy.append_word (by decide)
      ((Select.tidy_sketch inner query).append_word (by decide) tidy_nil)

theorem Block.tidy_sketch (inner : Scope) : ∀ b : Block, (b.sketch inner).Tidy
  | ⟨_, distinct, items, table, asName, joins, criteria, groupBy⟩ => by
    have clause := tidy_criteriaOutlines (inner.child (aliasesOf table asName joins)) criteria
    rw [Block.sketch]
    refine Tidy.join (by decide) ?_
    rw [List.forall_mem_append, List.forall_mem_append]
    exact ⟨⟨tidy_headSketches _ distinct items table asName joins, tidy_whereSketch clause⟩,
      tidy_groupBySketches _ groupBy⟩

theorem tidy_blocksSketches (inner : Scope) : ∀ bs : List Block,
    ∀ part ∈ blocksSketches inner bs, part.Tidy
  | [] => by simp [blocksSketches]
  | b :: bs => by
    have first := Block.tidy_sketch inner b
    rw [blocksSketches, List.forall_mem_cons]
    refine ⟨?_, tidy_blocksSketches inner bs⟩
    rcases b.union with _ | u
    · exact first
    · exact tidy_word_cons.mpr ⟨u.plain_before, first⟩

theorem Select.tidy_sketch (inner : Scope) : ∀ s : Select, (s.sketch inner).Tidy
  | ⟨blocks, orderBy, paging⟩ => by
    rw [Select.sketch]
    refine Tidy.join (by decide) ?_
    rw [List.forall_mem_append, List.forall_mem_append]
    exact ⟨⟨tidy_blocksSketches inner blocks, tidy_orderBySketches orderBy⟩,
      tidy_map Paging.tidy_sketch paging.toList⟩

end

theorem tidy_assignedSketch (column : Column) (a : Assigned) : (assignedSketch column a).Tidy := by
  cases a with
  | null =>
    simp only [assignedSketch, tidy_word_cons, tidy_nil, and_true]
    decide
  | _ => simp [assignedSketch]

theorem tidy_columnListSketch (columns : List Column) : (columnListSketch columns).Tidy :=
  Tidy.join (by decide) (tidy_map (fun _ => by simp) columns)

theorem tidy_insertHeadSketch (table : Table) (columns : List Column) :
    (insertHeadSketch table columns).Tidy := by
  have names := (tidy_columnListSketch columns).between
    (by decide : Plain " (") (by decide : Solid ") ")
  exact tidy_word_cons.mpr ⟨by decide, tidy_verbatim_cons.mpr names⟩

theorem tidy_rowSketch (columns : List Column) (row : List Assigned) :
    (rowSketch columns row).Tidy := by
  have cells := tidy_map (fun p : Column × Assigned => tidy_assignedSketch p.1 p.2)
    (columns.zip row)
  rw [List.map_zip_eq_zipWith] at cells
  have listed : (join ", " (List.zipWith assignedSketch columns row)).Tidy :=
    Tidy.join (by decide) cells
  exact listed.between (by decide) (by decide)

theorem tidy_returningSketch (columns : List Column) :
    (returningSketch columns).Tidy ∧ (returningSketch columns).Opened := by
  unfold returningSketch
  split
  · exact ⟨tidy_nil, opened_nil⟩
  · exact ⟨tidy_word_cons.mpr ⟨by decide, tidy_columnListSketch columns⟩,
      opened_word_cons.mpr (by decide)⟩

theorem Assignment.tidy_sketch (a : Assignment) : a.sketch.Tidy := by
  simp only [Assignment.sketch, tidy_verbatim_cons, tidy_word_cons, tidy_assignedSketch, and_true]
  decide

/-- In the sketch of a statement nothing follows a literal but a word that is not empty, and no word
has quotes. -/
theorem Statement.tidy_sketch (s : Statement) : s.sketch.Tidy := by
  cases s with
  | select s => exact Select.tidy_sketch .empty s
  | insert i =>
    have cells := tidy_map (fun a : Assignment => tidy_assignedSketch a.column a.value)
      i.assignments
    have listed : (join ", " (i.assignments.map fun a => assignedSketch a.column a.value)).Tidy :=
      Tidy.join (by decide) cells
    exact (tidy_insertHeadSketch _ _).append_word (by decide)
      (listed.append_word (by decide) tidy_nil)
  | insertMultiple i =>
    obtain ⟨returning, opened⟩ := tidy_returningSketch i.returning
    have rows : (join ", " (i.rows.map (rowSketch i.columns))).Tidy :=
      Tidy.join (by decide) (tidy_map (tidy_rowSketch i.columns) i.rows)
    exact (tidy_insertHeadSketch _ _).append_word (by decide) (rows.append returning opened)
  | update u =>
    have assignments := tidy_listed (by decide : Plain " set ")
      (tidy_map Assignment.tidy_sketch u.assignments)
    refine Tidy.join (by decide) ?_
    rw [List.forall_mem_cons]
    exact ⟨tidy_word_cons.mpr ⟨by decide, tidy_verbatim_cons.mpr assignments⟩,
      tidy_whereSketch (tidy_criteriaOutlines .empty u.criteria)⟩
  | delete d =>
    have head : Tidy [.word "delete from ", .verbatim d.table.name] := by
      simp only [tidy_word_cons, tidy_verbatim_cons, tidy_nil, and_true]
      decide
    refine Tidy.join (by decide) ?_
    rw [List.forall_mem_cons]
    exact ⟨head, tidy_whereSketch (tidy_criteriaOutlines .empty d.criteria)⟩

end BoundSql
