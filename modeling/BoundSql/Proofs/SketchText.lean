import BoundSql.Proofs.Numbering
import BoundSql.Proofs.Sketch

/-!
# Statements show their sketches

A text is cut into pieces in one way by a template and in another by a sketch, so the two are
compared as sequences of characters and holes. `Statement.chars_sketch`: whatever the aliases
outside, the sketch shows the text and the values of the template, so that rendering a statement
fills its sketch (`renderStatement_renders_sketch`).
-/

namespace BoundSql

open Rendering Sketch

/-! ## The characters of templates -/

/-- The characters of a text among those of a template. -/
def textChars (s : String) : List (Char ⊕ Hole) := s.toList.map .inl

@[simp]
theorem textChars_append (s t : String) : textChars (s ++ t) = textChars s ++ textChars t := by
  simp [textChars]

theorem textChars_intercalate (separator : String) : ∀ texts : List String,
    textChars (String.intercalate separator texts) =
      List.intercalate (textChars separator) (texts.map textChars)
  | [] => rfl
  | [s] => by simp [List.intercalate]
  | s :: t :: texts => by
    have ih := textChars_intercalate separator (t :: texts)
    simp only [List.map_cons, List.intercalate_cons_cons, String.intercalate_cons_cons,
      textChars_append] at ih ⊢
    rw [ih]

theorem textChars_join : ∀ texts : List String,
    textChars (String.join texts) = texts.flatMap textChars
  | [] => rfl
  | s :: texts => by
    rw [String.join_cons, textChars_append, textChars_join texts, List.flatMap_cons]

def Piece.chars : Piece → List (Char ⊕ Hole)
  | .text s => textChars s
  | .hole h => [.inr h]

/-- The template as characters and holes, however its text is cut into pieces. -/
def Template.chars (t : Template) : List (Char ⊕ Hole) := t.flatMap Piece.chars

theorem flatMap_intercalate {α β : Type} (f : α → List β) (separator : List α) :
    ∀ parts : List (List α), (List.intercalate separator parts).flatMap f =
      List.intercalate (separator.flatMap f) (parts.map fun part => part.flatMap f)
  | [] => rfl
  | [part] => by simp [List.intercalate]
  | part :: next :: parts => by
    have ih := flatMap_intercalate f separator (next :: parts)
    simp only [List.map_cons, List.intercalate_cons_cons, List.flatMap_append] at ih ⊢
    rw [ih]

namespace Template

@[simp]
theorem chars_nil : chars [] = [] := rfl

@[simp]
theorem chars_text (s : String) (t : Template) :
    chars (.text s :: t) = textChars s ++ chars t := rfl

@[simp]
theorem chars_hole (h : Hole) (t : Template) : chars (.hole h :: t) = .inr h :: chars t := rfl

@[simp]
theorem chars_append (t u : Template) : chars (t ++ u) = chars t ++ chars u :=
  List.flatMap_append

@[simp]
theorem chars_ofText (s : String) : chars (ofText s) = textChars s := List.append_nil _

@[simp]
theorem chars_join (separator : String) (parts : List Template) :
    chars (join separator parts) = List.intercalate (textChars separator) (parts.map chars) := by
  rw [chars, join, flatMap_intercalate, List.flatMap_singleton]
  rfl

@[simp]
theorem chars_between (opening : String) (t : Template) (closing : String) :
    chars (between opening t closing) = textChars opening ++ (chars t ++ textChars closing) := by
  simp [between]

/-- The characters with placeholders in the holes. -/
def fillChars (config : Config) (n : Nat) : List (Char ⊕ Hole) → List Char
  | [] => []
  | .inl c :: rest => c :: fillChars config n rest
  | .inr h :: rest => (h.placeholder config n).toList ++ fillChars config (n + 1) rest

theorem fillChars_textChars (config : Config) (n : Nat) (s : String) (rest : List (Char ⊕ Hole)) :
    fillChars config n (textChars s ++ rest) = s.toList ++ fillChars config n rest := by
  rw [textChars]
  induction s.toList with
  | nil => rfl
  | cons c cs ih => exact congrArg (c :: ·) ih

theorem toList_fill (config : Config) (n : Nat) : ∀ t : Template,
    (t.fill config n).toList = fillChars config n t.chars
  | [] => rfl
  | .text s :: t => by
    rw [fill_text, chars_text, fillChars_textChars, String.toList_append, toList_fill config n t]
  | .hole h :: t => by
    rw [fill_hole, chars_hole, fillChars, String.toList_append, toList_fill config (n + 1) t]

theorem filterMap_getRight_chars : ∀ t : Template, t.chars.filterMap Sum.getRight? = t.holes
  | [] => rfl
  | .text s :: t => by
    rw [chars_text, List.filterMap_append, filterMap_getRight_chars t, holes_text, textChars,
      List.filterMap_map]
    simp [Function.comp_def]
  | .hole h :: t => by
    rw [chars_hole, List.filterMap_cons, filterMap_getRight_chars t, holes_hole]
    rfl

end Template

/-- What a rendering fills is told by the characters alone. -/
theorem Rendering.Renders.of_chars_eq {config : Config} {t u : Template} {m : Rendering Fragment}
    (h : Renders config t m) (same : u.chars = t.chars) : Renders config u m := by
  have holes : u.holes = t.holes := by
    rw [← Template.filterMap_getRight_chars, same, Template.filterMap_getRight_chars]
  have filled : ∀ n, u.fill config n = t.fill config n := by
    intro n
    rw [← String.toList_inj, Template.toList_fill, same, ← Template.toList_fill]
  intro start
  rw [holes]
  refine (h start).mono id ?_
  intro f fills
  exact ⟨by rw [filled, fills.text], by rw [holes, fills.entries]⟩

/-! ## The characters of sketches -/

def Mark.holes : Mark → List Hole
  | .hole h => [h]
  | _ => []

/-- The values of a sketch in reading order. -/
def Sketch.holes (s : Sketch) : List Hole := s.flatMap Mark.holes

theorem Sketch.holes_template (outer : Scope) (s : Sketch) :
    Template.holes (s.template outer) = s.holes := by
  induction s with
  | nil => rfl
  | cons m s ih =>
    cases m with
    | hole h => exact congrArg (h :: ·) ih
    | _ => exact ih

def Mark.chars (outer : Scope) (m : Mark) : List (Char ⊕ Hole) := (m.piece outer).chars

/-- The sketch as characters and holes, under the aliases given outside. -/
def Sketch.chars (outer : Scope) (s : Sketch) : List (Char ⊕ Hole) := s.flatMap (Mark.chars outer)

namespace Sketch

variable (outer : Scope)

theorem chars_template (s : Sketch) : (s.template outer).chars = s.chars outer := by
  rw [template, Template.chars, List.flatMap_map]
  rfl

@[simp]
theorem chars_nil : chars outer [] = [] := rfl

@[simp]
theorem chars_cons (m : Mark) (s : Sketch) :
    chars outer (m :: s) = m.chars outer ++ chars outer s := rfl

@[simp]
theorem chars_append (s t : Sketch) : chars outer (s ++ t) = chars outer s ++ chars outer t :=
  List.flatMap_append

@[simp]
theorem chars_join (separator : String) (parts : List Sketch) :
    chars outer (join separator parts) =
      List.intercalate (textChars separator) (parts.map (chars outer)) := by
  rw [chars, join, flatMap_intercalate, List.flatMap_singleton]
  rfl

@[simp]
theorem chars_joinBySign (sign : String) (parts : List Sketch) :
    chars outer (joinBySign sign parts) =
      List.intercalate (textChars (" " ++ sign ++ " ")) (parts.map (chars outer)) := by
  have separator : chars outer [.word " ", .reference sign, .word " "] =
      textChars (" " ++ sign ++ " ") := by
    simp [chars, Mark.chars, Mark.piece, Piece.chars]
  rw [← separator, joinBySign, chars, flatMap_intercalate]
  rfl

@[simp]
theorem chars_between (opening : String) (s : Sketch) (closing : String) :
    chars outer (between opening s closing) =
      textChars opening ++ (chars outer s ++ textChars closing) := by
  simp [between, Mark.chars, Mark.piece, Piece.chars]

end Sketch

section Marks

variable (outer : Scope)

@[simp]
theorem Mark.chars_word (s : String) : Mark.chars outer (.word s) = textChars s := rfl

@[simp]
theorem Mark.chars_verbatim (s : String) : Mark.chars outer (.verbatim s) = textChars s := rfl

@[simp]
theorem Mark.chars_reference (s : String) : Mark.chars outer (.reference s) = textChars s := rfl

@[simp]
theorem Mark.chars_literal (s : String) :
    Mark.chars outer (.literal s) = textChars (Text.literal s) := rfl

@[simp]
theorem Mark.chars_column (inner : Scope) (c : Column) :
    Mark.chars outer (.column inner c) = textChars (c.qualified (inner.within outer)) := rfl

@[simp]
theorem Mark.chars_hole (h : Hole) : Mark.chars outer (.hole h) = [.inr h] := rfl

end Marks

theorem Scope.child_within (inner outer : Scope) (own : List (Table × String)) :
    (inner.child own).within outer = (inner.within outer).child own := rfl

theorem Scope.empty_within (outer : Scope) : Scope.empty.within outer = outer := rfl

section Heads

variable (inner outer : Scope)

mutual

theorem Expression.chars_sketch : ∀ e : Expression,
    (e.sketch inner).chars outer = textChars (e.render (inner.within outer))
  | .column c => by simp [Expression.sketch, Expression.render]
  | .constant text => by simp [Expression.sketch, Expression.render]
  | .stringConstant text => by simp [Expression.sketch, Expression.render]
  | .function name argument => by
    have ih := Expression.chars_sketch argument
    simp [Expression.sketch, Expression.render, ih]
  | .substring argument offset length => by
    have ih := Expression.chars_sketch argument
    simp [Expression.sketch, Expression.render, ih]
  | .aggregate name none _ => by simp [Expression.sketch, Expression.render]
  | .aggregate name (some argument) distinct => by
    have ih := Expression.chars_sketch argument
    simp [Expression.sketch, Expression.render, ih]
  | .operator sign operands => by
    have ih := Expression.chars_sketchAll operands
    simp [Expression.sketch, Expression.render, ih, textChars_intercalate]

theorem Expression.chars_sketchAll : ∀ es : List Expression,
    (Expression.sketchAll inner es).map (Sketch.chars outer) =
      (Expression.renderAll (inner.within outer) es).map textChars
  | [] => rfl
  | e :: es => by
    have first := Expression.chars_sketch e
    have rest := Expression.chars_sketchAll es
    rw [Expression.sketchAll, Expression.renderAll, List.map_cons, List.map_cons, first, rest]

end

theorem SelectItem.chars_sketch (item : SelectItem) :
    (item.sketch inner).chars outer = textChars (item.render (inner.within outer)) := by
  rcases item with ⟨e, _ | asName⟩ <;>
    simp [SelectItem.sketch, SelectItem.render, Expression.chars_sketch]

theorem chars_tableSketch (table : Table) (asName : Option String) :
    (tableSketch table asName).chars outer = textChars (tableText table asName) := by
  cases asName <;> simp [tableSketch, tableText]

theorem JoinCriterion.chars_sketch (c : JoinCriterion) :
    (c.sketch inner).chars outer = textChars (Join.criterionText (inner.within outer) c) := by
  rcases c with ⟨_ | k, left, right⟩ <;> simp [JoinCriterion.sketch, Join.criterionText]

theorem Join.chars_sketch (j : Join) :
    (j.sketch inner).chars outer = textChars (j.render (inner.within outer)) := by
  have criteria : Sketch.chars outer (j.criteria.flatMap (JoinCriterion.sketch inner)) =
      textChars (String.join (j.criteria.map (Join.criterionText (inner.within outer)))) := by
    rw [textChars_join, List.flatMap_map, Sketch.chars, List.flatMap_assoc]
    exact congrArg (j.criteria.flatMap ·) (funext (JoinCriterion.chars_sketch inner outer))
  simp [Join.sketch, Join.render, chars_tableSketch, criteria]

theorem map_chars_sketch {ι : Type} {sketch : ι → Sketch} {text : ι → String}
    (h : ∀ i, (sketch i).chars outer = textChars (text i)) (l : List ι) :
    (l.map sketch).map (Sketch.chars outer) = (l.map text).map textChars := by
  simp [h]

theorem chars_headSketches (distinct : Bool) (items : List SelectItem) (table : Table)
    (asName : Option String) (joins : List Join) :
    (headSketches inner distinct items table asName joins).map (Sketch.chars outer) =
      (headTexts (inner.within outer) distinct items table asName joins).map textChars := by
  have listed := map_chars_sketch outer (SelectItem.chars_sketch inner outer) items
  have joined := map_chars_sketch outer (Join.chars_sketch inner outer) joins
  simp [headSketches, headTexts, chars_tableSketch, textChars_intercalate, listed, joined]

theorem chars_groupBySketches (groupBy : List Expression) :
    (groupBySketches inner groupBy).map (Sketch.chars outer) =
      (groupByTexts (inner.within outer) groupBy).map textChars := by
  have listed := map_chars_sketch outer (Expression.chars_sketch inner outer) groupBy
  unfold groupBySketches groupByTexts
  split
  · rfl
  · simp [textChars_intercalate, listed]

theorem SortSpec.chars_sketch (s : SortSpec) :
    s.sketch.chars outer = textChars s.render := by
  rcases s with ⟨name, _ | _⟩ <;> simp [SortSpec.sketch, SortSpec.render]

theorem chars_orderBySketches (orderBy : List SortSpec) :
    (orderBySketches orderBy).map (Sketch.chars outer) = (orderByTexts orderBy).map textChars := by
  have listed := map_chars_sketch outer (SortSpec.chars_sketch outer) orderBy
  unfold orderBySketches orderByTexts
  split
  · rfl
  · simp [textChars_intercalate, listed]

theorem Paging.chars_sketch (p : Paging) : p.sketch.chars outer = p.template.chars := by
  rw [Paging.sketch, Sketch.chars, List.flatMap_map, Template.chars]
  refine congrArg (p.template.flatMap ·) (funext ?_)
  rintro (s | h) <;> rfl

theorem chars_leftSketch (column : Column) (upper : Bool) (op : Operator) :
    (leftSketch inner column upper op).chars outer =
      textChars (leftSide (inner.within outer) column upper ++ " " ++ op.keyword) := by
  cases upper <;> simp [leftSketch, leftSide]

end Heads

/-! ## The characters of where clauses -/

section Clauses

variable (outer : Scope)

/-- The characters of items behind their connectors. -/
def tailChars (tails : List (Connector × List (Char ⊕ Hole))) : List (Char ⊕ Hole) :=
  tails.flatMap fun tail => textChars (" " ++ tail.1.keyword ++ " ") ++ tail.2

theorem tailChars_cons (k : Connector) (cs : List (Char ⊕ Hole))
    (tails : List (Connector × List (Char ⊕ Hole))) :
    tailChars ((k, cs) :: tails) =
      textChars (" " ++ k.keyword ++ " ") ++ cs ++ tailChars tails := rfl

/-- The characters of an item behind its connector. -/
def itemChars (tail : Connector × Item Sketch) : Connector × List (Char ⊕ Hole) :=
  (tail.1, (tokensSketch tail.2.tokens).chars outer)

def criterionChars (criterion : Option Connector × Template) : Connector × List (Char ⊕ Hole) :=
  (criterion.1.getD .and, criterion.2.chars)

theorem chars_join_joined (first : Template) : ∀ rest : List (Option Connector × Template),
    Template.chars (Template.join " " (first :: rest.map Template.joined)) =
      first.chars ++ tailChars (rest.map criterionChars)
  | [] => by simp [List.intercalate, tailChars]
  | (k, t) :: rest => by
    have ih := chars_join_joined (Template.joined (k, t)) rest
    simp only [Template.chars_join, List.map_cons, List.intercalate_cons_cons] at ih ⊢
    rw [ih, criterionChars, tailChars_cons]
    simp [Template.joined]

theorem chars_tailTokens (rest : List (Connector × Item Sketch)) :
    (tokensSketch (tailTokens rest)).chars outer = tailChars (rest.map (itemChars outer)) := by
  induction rest with
  | nil => rfl
  | cons tail rest ih =>
    obtain ⟨k, i⟩ := tail
    rw [tailTokens, tokensSketch_cons, tokensSketch_append, chars_append, chars_append, ih,
      List.map_cons, itemChars, tailChars_cons]
    simp [Token.sketch]

theorem chars_with (first : Item Sketch) (rest : List (Connector × Item Sketch)) :
    (tokensSketch (first.with rest).tokens).chars outer =
      if rest.isEmpty then (tokensSketch first.tokens).chars outer
      else textChars "(" ++ ((tokensSketch first.tokens).chars outer ++
        (tailChars (rest.map (itemChars outer)) ++ textChars ")")) := by
  rcases rest with _ | ⟨⟨k, second⟩, rest⟩
  · rfl
  · have behind := chars_tailTokens outer ((k, second) :: rest)
    rw [tailTokens, tokensSketch_cons, tokensSketch_append, chars_append, chars_append] at behind
    rw [← behind, Item.with, Item.tokens]
    simp only [tokensSketch_cons, tokensSketch_append, chars_append, Token.sketch,
      List.isEmpty_cons, Bool.false_eq_true, if_false, Sketch.chars_cons, Mark.chars_word,
      Sketch.chars_nil, List.append_nil, List.append_assoc]
    rfl

theorem chars_grouped (first : Template) (rest : List (Option Connector × Template)) :
    Template.chars (Template.grouped (first :: rest.map Template.joined)) =
      if rest.isEmpty then first.chars
      else textChars "(" ++
        (first.chars ++ (tailChars (rest.map criterionChars) ++ textChars ")")) := by
  have whole := chars_join_joined first rest
  rcases rest with _ | ⟨second, rest⟩
  · rw [List.map_nil, List.map_nil, tailChars, List.flatMap_nil, List.append_nil] at whole
    exact whole
  · rw [Template.grouped, if_pos (by simp), Template.chars_between, whole, List.append_assoc]
    rfl

/-- A test with the criteria below it and the item headed by it show the same. -/
theorem chars_assembled {own : Option Template} {sketch : Option Sketch}
    {below : List (Option Connector × Template)} {items : List (Connector × Item Sketch)}
    (test : own.map Template.chars = sketch.map (Sketch.chars outer))
    (children : below.map criterionChars = items.map (itemChars outer)) :
    (Template.assembled own below).map Template.chars =
      (Item.headed? sketch items).map fun i => (tokensSketch i.tokens).chars outer := by
  have grouped : ∀ (t : Template) (i : Item Sketch) below items,
      t.chars = (tokensSketch i.tokens).chars outer →
      List.map criterionChars below = List.map (itemChars outer) items →
      Template.chars (Template.grouped (t :: below.map Template.joined)) =
        (tokensSketch (i.with items).tokens).chars outer := by
    intro t i below items head rest
    have isEmpty : below.isEmpty = items.isEmpty := by
      rw [← List.isEmpty_map, rest, List.isEmpty_map]
    rw [chars_grouped, chars_with, head, rest, isEmpty]
  rcases own with _ | t <;> rcases sketch with _ | s
  -- Without a test of its own the criterion is headed by the first of the items below it.
  · rcases below with _ | ⟨⟨k, t⟩, below⟩ <;> rcases items with _ | ⟨⟨l, i⟩, items⟩
    · rfl
    · cases children
    · cases children
    · obtain ⟨first, rest⟩ := List.cons.inj children
      exact congrArg some (grouped t i below items (Prod.mk.inj first).2 rest)
  · cases test
  · cases test
  · refine congrArg some (grouped t (.atom s) below items ?_ children)
    rw [Option.some.inj test, Item.tokens, tokensSketch_cons, chars_append]
    exact (List.append_nil _).symm

theorem chars_whereClause {criteria : List (Option Connector × Template)}
    {outlines : List (Outline Sketch)}
    (h : criteria.map criterionChars = (itemsOf outlines).map (itemChars outer)) :
    (Template.whereClause criteria).toList.map Template.chars =
      (whereSketch outlines).toList.map (Sketch.chars outer) := by
  rw [whereSketch, Clause.elided, Template.whereClause]
  rcases criteria with _ | ⟨⟨k, t⟩, criteria⟩ <;>
    rcases items : itemsOf outlines with _ | ⟨⟨l, i⟩, rest⟩ <;> rw [items] at h
  · rfl
  · cases h
  · cases h
  · obtain ⟨first, behind⟩ := List.cons.inj h
    have first : t.chars = (tokensSketch i.tokens).chars outer := (Prod.mk.inj first).2
    have whole := chars_join_joined t criteria
    rw [first, behind, ← chars_tailTokens, ← chars_append, ← tokensSketch_append] at whole
    simp only [List.isEmpty_cons, Bool.false_eq_true, if_false, Option.map_some,
      Option.toList_some, List.map_cons, List.map_nil, Template.chars_text, Template.headed,
      Sketch.chars_cons, Mark.chars_word, Clause.tokens, whole]

end Clauses

/-! ## The characters of queries and statements -/

mutual

theorem Criterion.chars_outline (inner outer : Scope) : ∀ c : Criterion,
    (c.template (inner.within outer)).map Template.chars =
      (c.outline inner).item?.map fun i => (tokensSketch i.tokens).chars outer
  | ⟨_, test, children⟩ => by
    have own := Test.chars_sketch inner outer test
    have below := chars_criteriaOutlines inner outer children
    rw [Criterion.template, Criterion.outline, Outline.item?]
    exact chars_assembled outer own below

theorem chars_criteriaOutlines (inner outer : Scope) : ∀ cs : List Criterion,
    (criteriaTemplates (inner.within outer) cs).map criterionChars =
      (itemsOf (criteriaOutlines inner cs)).map (itemChars outer)
  | [] => rfl
  | c :: cs => by
    have first := Criterion.chars_outline inner outer c
    have rest := chars_criteriaOutlines inner outer cs
    have connector : (c.outline inner).connector = c.connector := by
      rcases c with ⟨connector, test, children⟩
      rfl
    rw [criteriaTemplates, criteriaOutlines, itemsOf, connector]
    rcases template : c.template (inner.within outer) with _ | t <;>
      rcases item : (c.outline inner).item? with _ | i <;> rw [template, item] at first
    · exact rest
    · cases first
    · cases first
    · rw [List.map_cons, List.map_cons, rest, criterionChars, Option.some.inj first]
      rfl

theorem Test.chars_sketch (inner outer : Scope) : ∀ t : Test,
    (t.template (inner.within outer)).map Template.chars =
      (t.sketch inner).map (Sketch.chars outer)
  | .column column ⟨operator, operand, upper, _⟩ => by
    have left := chars_leftSketch inner outer column upper operator
    rw [Test.template, Test.sketch]
    exact chars_operandSketch inner outer column left operand
  | .existence query negated => by
    have ih := Select.chars_sketch inner outer query
    simp [Test.template, Test.sketch, ih]
  | .group => rfl

theorem chars_operandSketch (inner outer : Scope) (column : Column) {left : Sketch} {text : String}
    (same : left.chars outer = textChars text) : ∀ o : Operand Select Value,
    (operandTemplate (inner.within outer) column text o).map Template.chars =
      (operandSketch inner column left o).map (Sketch.chars outer)
  | .noValue true => by simp [operandTemplate, operandSketch, same]
  | .noValue false => rfl
  | .single none => rfl
  | .single (some _) => by simp [operandTemplate, operandSketch, same]
  | .pair none => rfl
  | .pair (some (_, _)) => by simp [operandTemplate, operandSketch, same]
  | .list [] => rfl
  | .list (v :: vs) => by simp [operandTemplate, operandSketch, same, Function.comp_def]
  | .column none => rfl
  | .column (some other) => by simp [operandTemplate, operandSketch, same]
  | .select none => rfl
  | .select (some query) => by
    have ih := Select.chars_sketch inner outer query
    simp [operandTemplate, operandSketch, same, ih]

theorem Block.chars_sketch (inner outer : Scope) : ∀ b : Block,
    (b.template (inner.within outer)).chars = (b.sketch inner).chars outer
  | ⟨_, distinct, items, table, asName, joins, criteria, groupBy⟩ => by
    let own := inner.child (aliasesOf table asName joins)
    have head := chars_headSketches own outer distinct items table asName joins
    have clause := chars_whereClause outer (chars_criteriaOutlines own outer criteria)
    have grouped := chars_groupBySketches own outer groupBy
    rw [Block.template, Block.sketch, Template.chars_join, Sketch.chars_join]
    simp only [List.map_append, List.map_map, ← Scope.child_within]
    simp only [own] at head clause grouped
    rw [head, ← clause, grouped]
    simp [Function.comp_def]

theorem chars_blocksSketches (inner outer : Scope) : ∀ bs : List Block,
    (blockTemplates (inner.within outer) bs).map Template.chars =
      (blocksSketches inner bs).map (Sketch.chars outer)
  | [] => rfl
  | b :: bs => by
    have first := Block.chars_sketch inner outer b
    have rest := chars_blocksSketches inner outer bs
    rw [blockTemplates, blocksSketches, List.map_cons, List.map_cons, rest]
    rcases b.union with _ | u <;> simp [Template.unioned, unionSketch, first]

theorem Select.chars_sketch (inner outer : Scope) : ∀ s : Select,
    (s.template (inner.within outer)).chars = (s.sketch inner).chars outer
  | ⟨blocks, orderBy, paging⟩ => by
    have parts := chars_blocksSketches inner outer blocks
    have sorted := chars_orderBySketches outer orderBy
    rw [Select.template, Select.sketch, Template.chars_join, Sketch.chars_join]
    simp only [List.map_append, parts, sorted]
    rcases paging with _ | p <;> simp [Function.comp_def, Paging.chars_sketch]

end

section Statements

variable (scope : Scope)

theorem chars_assignedSketch (column : Column) (a : Assigned) :
    (assignedSketch column a).chars scope = (assignedTemplate scope column a).chars := by
  cases a <;> simp [assignedSketch, assignedTemplate, Scope.empty_within]

theorem chars_columnListSketch (columns : List Column) :
    (columnListSketch columns).chars scope = textChars (Rendering.columnList columns) := by
  simp [columnListSketch, Rendering.columnList, textChars_intercalate, Function.comp_def]

theorem chars_insertHeadSketch (table : Table) (columns : List Column) :
    (insertHeadSketch table columns).chars scope =
      textChars (Rendering.insertHead table columns) := by
  simp [insertHeadSketch, Rendering.insertHead, chars_columnListSketch]

theorem chars_rowSketch (columns : List Column) (row : List Assigned) :
    (rowSketch columns row).chars scope = (rowTemplate scope columns row).chars := by
  simp [rowSketch, rowTemplate, List.map_zipWith, chars_assignedSketch]

theorem chars_returningSketch (columns : List Column) :
    (returningSketch columns).chars scope = textChars (Rendering.returningText columns) := by
  unfold returningSketch Rendering.returningText
  split
  · rfl
  · simp [chars_columnListSketch]

theorem Assignment.chars_sketch (a : Assignment) :
    a.sketch.chars scope = (a.template scope).chars := by
  simp [Assignment.sketch, Assignment.template, chars_assignedSketch]

/-- A statement's sketch shows the text and the values of its template. -/
theorem Statement.chars_sketch (s : Statement) :
    s.sketch.chars scope = (s.template scope).chars := by
  cases s with
  | select s => exact (Select.chars_sketch .empty scope s).symm
  | insert i =>
    simp [Statement.sketch, Statement.template, chars_insertHeadSketch, chars_assignedSketch,
      Function.comp_def]
  | insertMultiple i =>
    simp [Statement.sketch, Statement.template, chars_insertHeadSketch, chars_rowSketch,
      chars_returningSketch, Function.comp_def]
  | update u =>
    have clause := chars_whereClause scope (chars_criteriaOutlines .empty scope u.criteria)
    simp [Statement.sketch, Statement.template, ← clause, Assignment.chars_sketch,
      Scope.empty_within, Function.comp_def]
  | delete d =>
    have clause := chars_whereClause scope (chars_criteriaOutlines .empty scope d.criteria)
    simp [Statement.sketch, Statement.template, ← clause, Scope.empty_within]

/-- A statement's sketch has the values that the statement binds. -/
theorem Statement.holes_sketch (s : Statement) : s.sketch.holes = s.holes := by
  rw [← Sketch.holes_template .empty, ← Template.filterMap_getRight_chars, chars_template,
    s.chars_sketch .empty, Template.filterMap_getRight_chars, s.holes_template .empty]

end Statements

namespace Rendering

variable (config : Config)

/-- Rendering a statement fills its sketch, with the aliases given outside put in. -/
theorem renderStatement_renders_sketch (scope : Scope) (s : Statement) :
    Renders config (s.sketch.template scope) (renderStatement config scope s) := by
  refine (renderStatement_renders scope s).of_chars_eq ?_
  rw [chars_template, s.chars_sketch scope]

theorem renderBlock_renders_sketch (scope : Scope) (b : Block) :
    Renders config ((b.sketch .empty).template scope) (renderBlock config scope b) := by
  refine (renderBlock_renders scope b).of_chars_eq ?_
  rw [chars_template, ← b.chars_sketch .empty scope, Scope.empty_within]

end Rendering

end BoundSql
