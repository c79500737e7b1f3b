import BoundSql.Proofs.ClauseGrammar
import BoundSql.Rendering.Query
import Mathlib.Data.List.Forall2

/-!
# Where clauses print the elided tree of their criteria

An `Outline` is a criterion with the text that its own test renders to in place of the test, and
`renderOutlines` gives the outlines of criteria in the order in which they are rendered. What is
left of them when all is elided that renders nothing is a `Clause`: an outline with a text of its
own is headed by it, another one by the first of its children that renders, whose connector is
dropped, and an outline of one item is that item.

`renderWhere_prints_elided`: the text of the where clause is that of the elided tree's tokens, and
of these the elided tree is the only parse.
-/

namespace BoundSql

/-- A criterion with what its own test renders to. -/
structure Outline (α : Type) where
  connector : Option Connector
  own : Option α
  children : List (Outline α)

variable {α : Type}

/-- An item with those behind it in parentheses, or the item alone. -/
def Item.with (first : Item α) : List (Connector × Item α) → Item α
  | [] => first
  | second :: rest => .group first second rest

/-- The item of a criterion, from its own fragment and the items below it. -/
def Item.headed? : Option α → List (Connector × Item α) → Option (Item α)
  | some own, items => some (Item.with (.atom own) items)
  | none, [] => none
  | none, (_, first) :: rest => some (first.with rest)

mutual

/-- The item that stands for an outline, unless nothing of it renders. -/
def Outline.item? : Outline α → Option (Item α)
  | ⟨_, own, children⟩ => Item.headed? own (itemsOf children)

/-- The items that stand for outlines. Each has the connector of the outline it stands for, however
deep below it its text was rendered. -/
def itemsOf : List (Outline α) → List (Connector × Item α)
  | [] => []
  | o :: os =>
    match o.item? with
    | none => itemsOf os
    | some i => (o.connector.getD .and, i) :: itemsOf os

end

/-- The clause of outlines, unless nothing of them renders. -/
def Clause.elided (outlines : List (Outline α)) : Option (Clause α) :=
  match itemsOf outlines with
  | [] => none
  | (_, first) :: rest => some ⟨first, rest⟩

namespace Rendering

mutual

/-- The outline of a criterion: its own tests are rendered, and nothing is put together. -/
def renderOutline (config : Config) (scope : Scope) : Criterion → Rendering (Outline String)
  | ⟨connector, test, children⟩ => do
    let own ← renderTest config scope test
    let children ← renderOutlines config scope children
    return ⟨connector, own.map Fragment.text, children⟩

def renderOutlines (config : Config) (scope : Scope) :
    List Criterion → Rendering (List (Outline String))
  | [] => return []
  | c :: cs => do
    let first ← renderOutline config scope c
    let rest ← renderOutlines config scope cs
    return first :: rest

end

variable {config : Config}

theorem renderOutlines_cons {scope : Scope} {c : Criterion} {cs : List Criterion}
    {start mid stop : Progress} {o : Outline String} {os : List (Outline String)}
    (first : (renderOutline config scope c).run start = .ok (o, mid))
    (rest : (renderOutlines config scope cs).run mid = .ok (os, stop)) :
    (renderOutlines config scope (c :: cs)).run start = .ok (o :: os, stop) := by
  rw [renderOutlines, run_bind_of_ok first, run_bind_of_ok rest]
  rfl

/-- The rendered criterion is the item, behind the same connector. -/
def Prints (r : RenderedCriterion) (tail : Connector × Item String) : Prop :=
  r.connector.getD .and = tail.1 ∧ r.fragment.text = printed tail.2.tokens

theorem Prints.joined {r : RenderedCriterion} {tail : Connector × Item String}
    (h : Prints r tail) : r.joined.text = tailText tail := by
  obtain ⟨connector, text⟩ := h
  rw [tailText, ← connector, ← text]
  rfl

theorem prints_joined {rs : List RenderedCriterion} {tails : List (Connector × Item String)}
    (h : List.Forall₂ Prints rs tails) :
    (rs.map RenderedCriterion.joined).map Fragment.text = tails.map tailText := by
  induction h with
  | nil => rfl
  | cons head _ ih => rw [List.map_cons, List.map_cons, List.map_cons, ih, head.joined]

theorem grouped_prints {own : Fragment} {f : Option Fragment} {first : Item String}
    {rs : List RenderedCriterion} {tails : List (Connector × Item String)}
    (head : own.text = printed first.tokens) (behind : List.Forall₂ Prints rs tails)
    (h : (do return some (← Collector.ofList (own :: rs.map RenderedCriterion.joined)).grouped) =
      Except.ok f) :
    f.map Fragment.text = some (printed (first.with tails).tokens) := by
  rcases collected : Collector.ofList (own :: rs.map RenderedCriterion.joined) with e | c <;>
    rw [collected] at h
  · cases h
  · cases h
    have texts := Collector.texts_of_addAll collected
    rw [Collector.empty, List.nil_append, List.map_cons, prints_joined behind, head] at texts
    rw [Option.map_some, Collector.grouped, Collector.hasMultiple, Collector.size, texts]
    rcases tails with _ | ⟨second, rest⟩
    · simp [Collector.join, texts, Item.with]
    · rw [if_pos (by simp), Item.with, Item.printed_group, Collector.wrapped, texts]

/-- Fragments are put together as items are. -/
theorem assemble_prints {own f : Option Fragment} {rs : List RenderedCriterion}
    {tails : List (Connector × Item String)} (children : List.Forall₂ Prints rs tails)
    (h : assemble own rs = .ok f) :
    f.map Fragment.text =
      (Item.headed? (own.map Fragment.text) tails).map fun i => printed i.tokens := by
  rcases own with _ | own
  · rcases children with _ | ⟨⟨-, first⟩, behind⟩
    · cases h
      rfl
    · exact grouped_prints first behind h
  · have alone : own.text = printed (Item.atom own.text).tokens := by
      rw [Item.tokens, printed, printed, String.append_empty, Token.text]
    exact grouped_prints alone children h

mutual

theorem renderCriterion_prints (scope : Scope) : ∀ (c : Criterion) {start stop : Progress}
    {r : Option RenderedCriterion}, (renderCriterion config scope c).run start = .ok (r, stop) →
    ∃ o : Outline String, (renderOutline config scope c).run start = .ok (o, stop) ∧
      Option.Rel Prints r (o.item?.map fun i => (o.connector.getD .and, i))
  | ⟨connector, test, children⟩, start, stop, r, run => by
    rw [renderCriterion] at run
    obtain ⟨own, tested, ownRun, afterOwn⟩ := run_bind_inv run
    obtain ⟨rendered, below, childrenRun, afterChildren⟩ := run_bind_inv afterOwn
    obtain ⟨f, last, lifted, outcome⟩ := run_bind_inv afterChildren
    obtain ⟨assembled, rfl⟩ := run_lift_inv lifted
    obtain ⟨outlines, outlinesRun, prints⟩ := renderChildren_prints scope children childrenRun
    have text := assemble_prints prints assembled
    have outlineRun : (renderOutline config scope ⟨connector, test, children⟩).run start =
        .ok (⟨connector, own.map Fragment.text, outlines⟩, last) := by
      rw [renderOutline, run_bind_of_ok ownRun, run_bind_of_ok outlinesRun]
      rfl
    have item : (Outline.mk connector (own.map Fragment.text) outlines).item? =
        Item.headed? (own.map Fragment.text) (itemsOf outlines) := by
      rw [Outline.item?]
    rw [← item] at text
    -- The fragment and the item are both there or both absent, as their texts are equal.
    rcases f with _ | f <;> rcases elided : Outline.item? _ with _ | i <;> rw [elided] at text <;>
      cases outcome
    · exact ⟨_, outlineRun, by rw [elided]; exact .none⟩
    · cases text
    · cases text
    · exact ⟨_, outlineRun, by rw [elided]; exact .some ⟨rfl, Option.some.inj text⟩⟩

theorem renderChildren_prints (scope : Scope) : ∀ (cs : List Criterion) {start stop : Progress}
    {rs : List RenderedCriterion}, (renderChildren config scope cs).run start = .ok (rs, stop) →
    ∃ os : List (Outline String), (renderOutlines config scope cs).run start = .ok (os, stop) ∧
      List.Forall₂ Prints rs (itemsOf os)
  | [], start, stop, rs, run => by
    cases run
    exact ⟨[], rfl, .nil⟩
  | c :: cs, start, stop, rs, run => by
    rw [renderChildren] at run
    obtain ⟨r, mid, firstRun, afterFirst⟩ := run_bind_inv run
    obtain ⟨others, last, othersRun, outcome⟩ := run_bind_inv afterFirst
    obtain ⟨o, outlineRun, prints⟩ := renderCriterion_prints scope c firstRun
    obtain ⟨os, outlinesRun, tails⟩ := renderChildren_prints scope cs othersRun
    refine ⟨o :: os, ?_, ?_⟩
    · rw [renderOutlines_cons outlineRun outlinesRun]
      rcases r with _ | r <;> cases outcome <;> rfl
    · rw [itemsOf]
      rcases item : o.item? with _ | i <;> rw [item] at prints
      · cases prints
        cases outcome
        exact tails
      · rcases prints with ⟨first⟩ | -
        cases outcome
        exact .cons first tails

end

/-- Texts with those of more items behind them. The very first item has no connector. -/
def lined : List String → List (Connector × Item String) → List String
  | [], [] => []
  | [], (_, first) :: rest => printed first.tokens :: rest.map tailText
  | text :: texts, tails => text :: texts ++ tails.map tailText

theorem lined_append (texts : List String) (text : String)
    (tails : List (Connector × Item String)) :
    lined (texts ++ [text]) tails = texts ++ text :: tails.map tailText := by
  rcases texts with _ | ⟨first, texts⟩
  · rfl
  · simp only [List.cons_append, lined, List.append_assoc, List.nil_append]

theorem lined_cons (c : Collector) {r : RenderedCriterion} {tail : Connector × Item String}
    (h : Prints r tail) (tails : List (Connector × Item String)) :
    lined c.texts (tail :: tails) =
      c.texts ++ (if c.isEmpty then r.fragment else r.joined).text :: tails.map tailText := by
  rcases c with ⟨_ | ⟨first, texts⟩, parameters⟩
  · exact congrArg (· :: _) h.2.symm
  · have text : (if Collector.isEmpty ⟨first :: texts, parameters⟩ then r.fragment
        else r.joined).text = tailText tail := h.joined
    rw [text]
    rfl

theorem renderClause_prints (scope : Scope) : ∀ (cs : List Criterion) {collector c : Collector}
    {start stop : Progress}, (renderClause config scope collector cs).run start = .ok (c, stop) →
    ∃ os : List (Outline String), (renderOutlines config scope cs).run start = .ok (os, stop) ∧
      c.texts = lined collector.texts (itemsOf os)
  | [], collector, c, start, stop, run => by
    rw [renderClause] at run
    cases run
    refine ⟨[], rfl, ?_⟩
    rcases collector with ⟨_ | ⟨first, texts⟩, parameters⟩
    · rfl
    · exact (List.append_nil _).symm
  | criterion :: cs, collector, c, start, stop, run => by
    rw [renderClause] at run
    obtain ⟨r, mid, firstRun, afterFirst⟩ := run_bind_inv run
    obtain ⟨o, outlineRun, prints⟩ := renderCriterion_prints scope criterion firstRun
    rcases item : o.item? with _ | i <;> rw [item] at prints
    · cases prints
      obtain ⟨os, outlinesRun, texts⟩ := renderClause_prints scope cs afterFirst
      refine ⟨o :: os, renderOutlines_cons outlineRun outlinesRun, ?_⟩
      rwa [itemsOf, item]
    · rcases prints with ⟨prints⟩ | -
      obtain ⟨next, last, lifted, afterAdd⟩ := run_bind_inv afterFirst
      obtain ⟨added, rfl⟩ := run_lift_inv lifted
      obtain ⟨os, outlinesRun, texts⟩ := renderClause_prints scope cs afterAdd
      refine ⟨o :: os, renderOutlines_cons outlineRun outlinesRun, ?_⟩
      rw [texts, Collector.texts_of_add added, lined_append, itemsOf, item,
        lined_cons collector prints]

/-- A where clause is the text of a token sequence with one parse only: the tree that is left of
the criteria if nothing is kept that renders nothing. There is no clause only if nothing is left. -/
theorem renderWhere_prints_elided {scope : Scope} {criteria : List Criterion}
    {start stop : Progress} {r : Option Fragment}
    (run : (renderWhere config scope criteria).run start = .ok (r, stop)) :
    ∃ outlines : List (Outline String),
      (renderOutlines config scope criteria).run start = .ok (outlines, stop) ∧
        Option.Rel (fun f clause => ∃ tokens, f.text = "where " ++ printed tokens ∧
            ∀ parse : Clause String, parse.tokens = tokens ↔ parse = clause)
          r (Clause.elided outlines) := by
  rw [renderWhere] at run
  obtain ⟨c, mid, clauseRun, outcome⟩ := run_bind_inv run
  obtain ⟨os, outlinesRun, texts⟩ := renderClause_prints scope criteria clauseRun
  rw [Collector.isEmpty, texts] at outcome
  refine ⟨os, ?_⟩
  rw [Clause.elided]
  rcases items : itemsOf os with _ | ⟨⟨k, first⟩, rest⟩ <;> rw [items] at texts outcome <;>
    cases outcome
  · exact ⟨outlinesRun, .none⟩
  · refine ⟨outlinesRun, .some ⟨_, ?_, fun parse => parse.tokens_eq_iff ⟨first, rest⟩⟩⟩
    rw [Clause.printed_tokens]
    exact congrArg (fun texts => "where " ++ String.intercalate " " texts) texts

def isNull (name : String) (isOpen : Bool) : Test :=
  .column ⟨⟨0, "person"⟩, name, .text, none, none⟩ ⟨.isNull, .noValue isOpen, false, none⟩

/-- A closed condition over two open ones, and a condition alone in two groups. -/
def closedAnchor : List Criterion :=
  [⟨none, isNull "id" false,
      [⟨some .or, isNull "name" true, []⟩, ⟨some .or, isNull "city" true, []⟩]⟩,
    ⟨some .or, .group, [⟨some .and, .group, [⟨none, isNull "age" true, []⟩]⟩]⟩]

theorem closedAnchor_prints_elided :
    (renderWhere {} .empty closedAnchor).run {} =
        .ok (some (.ofText "where (name is null or city is null) or age is null"), {}) ∧
      ∃ outlines : List (Outline String),
        (renderOutlines {} .empty closedAnchor).run {} = .ok (outlines, {}) ∧
          Option.Rel (fun f clause => ∃ tokens, f.text = "where " ++ printed tokens ∧
              ∀ parse : Clause String, parse.tokens = tokens ↔ parse = clause)
            (some (Fragment.ofText "where (name is null or city is null) or age is null"))
            (Clause.elided outlines) := by
  have run : (renderWhere {} .empty closedAnchor).run {} =
      .ok (some (.ofText "where (name is null or city is null) or age is null"), {}) := by
    rfl
  exact ⟨run, renderWhere_prints_elided run⟩

end Rendering

end BoundSql
