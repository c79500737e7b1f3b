import BoundSql.Proofs.Binding
import BoundSql.Proofs.StatementTemplate

/-!
# Criteria and selects fill their templates

A criterion and all below it are rendered before they are put together, so parameters are merged
long after their numbers are given. Each renderer is shown to fill the template of what it renders;
one statement for each, by induction on the query.
-/

namespace BoundSql

open Template

namespace Rendering

variable {config : Config}

theorem renderPaging_renders : ∀ p : Paging, Renders config p.template (renderPaging config p)
  | .limit n none => by
    intro start
    refine bindOne_binds ?_
    intro parameters hp
    refine Binds.pure ⟨?_, hp⟩
    simp [Paging.template, fill_hole]
  | .limit n (some offset) => by
    intro start
    refine bindTwo_binds ?_
    intro _ parameters hp
    refine Binds.pure ⟨?_, hp⟩
    simp [Paging.template, fill_hole, String.append_assoc]
  | .fetch none none => renders_ofText ""
  | .fetch (some offset) none => by
    intro start
    refine bindOne_binds ?_
    intro parameters hp
    refine Binds.pure ⟨?_, hp⟩
    simp [Paging.template, fill_hole, String.append_assoc]
  | .fetch none (some first) => by
    intro start
    refine bindOne_binds ?_
    intro parameters hp
    refine Binds.pure ⟨?_, hp⟩
    simp [Paging.template, fill_hole, String.append_assoc]
  | .fetch (some offset) (some first) => by
    intro start
    refine bindTwo_binds ?_
    intro _ parameters hp
    refine Binds.pure ⟨?_, hp⟩
    simp [Paging.template, fill_hole, String.append_assoc]

theorem reportElided_binds (column : Column) (onEmptyList : Option String) {start : Nat}
    {clash : Prop} : Binds start start clash (reportElided column onEmptyList) fun _ => True := by
  rcases onEmptyList with _ | label
  · exact Binds.report _
  · exact Binds.bind (Binds.report _) fun _ _ => Binds.report _

variable (config)

/-- The rendered criteria are the templates, one by one, under the same connectors. -/
def FillBelow (start : Nat) : List (Option Connector × Template) → List RenderedCriterion → Prop
  | [], [] => True
  | (k, t) :: below, r :: rs =>
    (r.connector = k ∧ r.fragment.Fills config start t) ∧
      FillBelow (start + t.holes.length) below rs
  | _, _ => False

variable {config}

theorem fills_joined {start : Nat} {k : Option Connector} {t : Template} {r : RenderedCriterion}
    (h : r.connector = k ∧ r.fragment.Fills config start t) :
    r.joined.Fills config start (joined (k, t)) := by
  obtain ⟨rfl, hf⟩ := h
  exact hf.after _

theorem FillBelow.joined : ∀ {below : List (Option Connector × Template)}
    {rs : List RenderedCriterion} {start : Nat}, FillBelow config start below rs →
      FillEach config start (below.map Template.joined) (rs.map RenderedCriterion.joined)
  | [], [], _, _ => trivial
  | _ :: _, _ :: _, _, ⟨hr, hrs⟩ => ⟨fills_joined hr, hrs.joined⟩
  | [], _ :: _, _, h => h.elim
  | _ :: _, [], _, h => h.elim

theorem grouped_settles {start : Nat} {ts : List Template} {fs : List Fragment}
    (h : FillEach config start ts fs) :
    Settles (Clash config start (holesOf ts))
      (do return some (← Collector.ofList fs).grouped)
      (Option.Rel (Fragment.Fills config start) (some (grouped ts))) := by
  refine Settles.bind (Collector.fills_empty.addAll h) ?_
  intro c hc
  exact Option.Rel.some hc.grouped

theorem assemble_settles {start : Nat} {own : Option Template} {f : Option Fragment}
    {below : List (Option Connector × Template)} {rs : List RenderedCriterion}
    (hf : Option.Rel (Fragment.Fills config start) own f)
    (hrs : FillBelow config (start + (holesOf own.toList).length) below rs) :
    Settles (Clash config start (holesOf own.toList ++ holesOf (below.map Prod.snd)))
      (assemble f rs) (Option.Rel (Fragment.Fills config start) (assembled own below)) := by
  cases hf with
  | some hf =>
    rename_i t f
    have parts : holesOf (t :: below.map joined) =
        holesOf (some t).toList ++ holesOf (below.map Prod.snd) := by simp
    rw [← parts]
    refine grouped_settles ⟨hf, ?_⟩
    simpa using hrs.joined
  | none =>
    rcases below with _ | ⟨⟨k, t⟩, below⟩
    · rcases rs with _ | ⟨r, rs⟩
      · exact Option.Rel.none
      · exact hrs.elim
    · rcases rs with _ | ⟨r, rs⟩
      · exact hrs.elim
      · obtain ⟨⟨-, hr⟩, hrs⟩ := hrs
        have parts : holesOf (headed ((k, t) :: below)) =
            holesOf (none : Option Template).toList ++
              holesOf (((k, t) :: below).map Prod.snd) := by
          simp
        rw [← parts]
        exact grouped_settles ⟨hr, hrs.joined⟩

/-- The templates of a clause behind those collected already. -/
def behind (ts : List Template) (criteria : List (Option Connector × Template)) : List Template :=
  if ts.isEmpty then headed criteria else ts ++ criteria.map joined

theorem behind_cons (ts : List Template) (k : Option Connector) (t : Template)
    (criteria : List (Option Connector × Template)) :
    behind ts ((k, t) :: criteria) =
      behind (ts ++ [if ts.isEmpty then t else joined (k, t)]) criteria := by
  rcases ts with _ | ⟨u, ts⟩
  · rfl
  · simp [behind]

theorem fillAll_whereClause {start : Nat} {criteria : List (Option Connector × Template)}
    {c : Collector} (h : c.Fills config start (headed criteria)) :
    fillAll config start (whereClause criteria).toList =
      if c.isEmpty then [] else ["where " ++ (c.join " ").text] := by
  rw [h.isEmpty, (h.join " ").text, whereClause]
  rcases criteria with _ | ⟨⟨k, t⟩, criteria⟩
  · rfl
  · simp [fillAll, headed]

theorem fillEach_ofText {start : Nat} : ∀ texts : List String,
    FillEach config start (texts.map ofText) (texts.map Fragment.ofText)
  | [] => trivial
  | s :: texts => ⟨Fragment.fills_ofText s, fillEach_ofText texts⟩

/-- A rendered block behind the word that joins it to those before it. -/
def unionedFragment (union : Option UnionKind) (f : Fragment) : Fragment :=
  match union with
  | some u => f.after (u.keyword ++ " ")
  | none => f

theorem Renders.unioned {t : Template} {m : Rendering Fragment} (h : Renders config t m)
    (union : Option UnionKind) :
    Renders config (unioned union t) (do return unionedFragment union (← m)) := by
  intro start
  rw [holes_unioned]
  refine Binds.bind (h start) ?_
  intro f hf
  refine Binds.pure ?_
  rcases union with _ | u
  · exact hf
  · exact hf.after _

theorem renderBlocks_eq_collect (scope : Scope) : ∀ (bs : List Block) (c : Collector),
    renderBlocks config scope c bs =
      collect c (bs.map fun b => do return unionedFragment b.union (← renderBlock config scope b))
  | [], _ => by rw [renderBlocks, List.map_nil, collect]
  | b :: bs, c => by
    rw [renderBlocks, List.map_cons, collect, bind_assoc]
    refine bind_congr fun f => ?_
    rw [pure_bind]
    refine bind_congr fun d => ?_
    exact renderBlocks_eq_collect scope bs d

theorem blockTemplates_eq_map (scope : Scope) (bs : List Block) :
    blockTemplates scope bs = bs.map fun b => Template.unioned b.union (b.template scope) := by
  induction bs with
  | nil => rfl
  | cons b bs ih => rw [blockTemplates, ih, List.map_cons]

mutual

theorem renderCriterion_binds (scope : Scope) : ∀ (c : Criterion) (start : Nat),
    Binds start (start + c.holes.length) (Clash config start c.holes)
      (renderCriterion config scope c)
      (Option.Rel (fun t r => r.connector = c.connector ∧ r.fragment.Fills config start t)
        (c.template scope))
  | ⟨connector, test, children⟩, start => by
    have own := renderTest_renders scope test start
    rw [Test.holes_template] at own
    have below := renderChildren_binds scope children (start + test.holes.length)
    rw [Criterion.holes, List.length_append, ← Nat.add_assoc]
    refine Binds.bind (own.append_right _) ?_
    intro f hf
    refine Binds.bind (below.append_left _) ?_
    intro rs hrs
    rw [← Test.holes_template scope test] at hrs
    have whole := assemble_settles hf hrs
    rw [Test.holes_template, holes_criteriaTemplates] at whole
    refine Binds.bind (Binds.lift whole) ?_
    intro r hr
    rw [Criterion.template]
    generalize assembled _ _ = t at hr
    cases hr with
    | none => exact Binds.pure Option.Rel.none
    | some h => exact Binds.pure (Option.Rel.some ⟨rfl, h⟩)

theorem renderChildren_binds (scope : Scope) : ∀ (cs : List Criterion) (start : Nat),
    Binds start (start + (criteriaHoles cs).length) (Clash config start (criteriaHoles cs))
      (renderChildren config scope cs) (FillBelow config start (criteriaTemplates scope cs))
  | [], start => Binds.pure trivial
  | c :: cs, start => by
    have first := renderCriterion_binds scope c start
    have rest := renderChildren_binds scope cs (start + c.holes.length)
    rw [criteriaHoles, List.length_append, ← Nat.add_assoc]
    refine Binds.bind (first.append_right _) ?_
    intro r hr
    refine Binds.bind (rest.append_left _) ?_
    intro rs hrs
    have holes := Criterion.holes_template scope c
    rw [criteriaTemplates]
    generalize c.template scope = t at hr holes
    cases hr with
    | none =>
      -- What is left out has bound nothing, so those behind it start at the same number.
      have none : c.holes = [] := holes.symm
      rw [none] at hrs
      exact Binds.pure hrs
    | some h =>
      refine Binds.pure ⟨h, ?_⟩
      rw [← holes] at hrs
      simpa using hrs

theorem renderTest_renders (scope : Scope) :
    ∀ t : Test, RendersOption config (t.template scope) (renderTest config scope t)
  | .column column ⟨_, operand, _, onEmptyList⟩ =>
    renderOperand_renders scope column _ onEmptyList operand
  | .existence query _ => (renderSelect_renders scope query).some_between _ ")"
  | .group => rendersOption_none

theorem renderOperand_renders (scope : Scope) (column : Column) (left : String)
    (onEmptyList : Option String) : ∀ o : Operand Select Value,
      RendersOption config (operandTemplate scope column left o)
        (renderOperand config scope column left onEmptyList o)
  | .noValue true => rendersOption_ofText left
  | .noValue false => rendersOption_none
  | .single none => rendersOption_none
  | .single (some v) => by
    intro start
    refine bindOne_binds ?_
    intro parameters hp
    refine Binds.pure (Option.Rel.some ⟨?_, hp⟩)
    simp [fill_hole]
  | .pair none => rendersOption_none
  | .pair (some (a, b)) => by
    intro start
    refine bindTwo_binds ?_
    intro _ parameters hp
    refine Binds.pure (Option.Rel.some ⟨?_, hp⟩)
    simp [fill_hole, String.append_assoc]
  | .list [] => fun _ =>
    Binds.bind (reportElided_binds column onEmptyList) fun _ _ => Binds.pure Option.Rel.none
  | .list (v :: vs) => by
    intro start
    rw [holes_operandTemplate, operandHoles]
    have bound := bindValues_binds config (some column) (v :: vs) (entries_empty config start)
    rw [show (v :: vs).length = ((v :: vs).map (⟨some column, ·⟩ : Value → Hole)).length from
      (List.length_map _).symm] at bound
    refine Binds.bind bound ?_
    rintro ⟨ps, parameters⟩ ⟨rfl, hp⟩
    refine Binds.pure (Option.Rel.some ⟨?_, ?_⟩)
    · rw [fill_between, fill_join]
      rfl
    · rw [holes_between, holes_join, holesOf_map_hole]
      exact hp
  | .column none => rendersOption_none
  | .column (some _) => rendersOption_ofText _
  | .select none => rendersOption_none
  | .select (some query) => (renderSelect_renders scope query).some_between _ ")"

theorem renderClause_binds (scope : Scope) : ∀ (cs : List Criterion) {start : Nat}
    {ts : List Template} {c : Collector}, c.Fills config start ts →
      Binds (start + (holesOf ts).length) (start + (holesOf ts ++ criteriaHoles cs).length)
        (Clash config start (holesOf ts ++ criteriaHoles cs)) (renderClause config scope c cs)
        (Collector.Fills config start (behind ts (criteriaTemplates scope cs)))
  | [], start, ts, c, h => by
    rw [criteriaHoles, List.append_nil]
    refine Binds.pure ?_
    rcases ts with _ | ⟨t, ts⟩
    · exact h
    · simpa [behind, criteriaTemplates] using h
  | c :: cs, start, ts, collector, h => by
    have first := renderCriterion_binds scope c (start + (holesOf ts).length)
    have holes := Criterion.holes_template scope c
    rw [criteriaHoles, ← List.append_assoc, Nat.add_assoc, ← List.length_append] at *
    refine Binds.bind ((first.append_left (holesOf ts)).append_right _) ?_
    intro r hr
    rw [criteriaTemplates]
    generalize c.template scope = t at hr holes
    cases hr with
    | none =>
      have none : c.holes = [] := holes.symm
      rw [none, List.append_nil]
      exact renderClause_binds scope cs h
    | some hr =>
      rename_i t r
      have next : (if collector.isEmpty then r.fragment else r.joined).Fills config
          (start + (holesOf ts).length) (if ts.isEmpty then t else joined (c.connector, t)) := by
        rw [h.isEmpty]
        split
        · exact hr.2
        · exact fills_joined hr
      have whole : holesOf (ts ++ [if ts.isEmpty then t else joined (c.connector, t)]) =
          holesOf ts ++ c.holes := by
        rw [← holes]
        split <;> simp [joined]
      have added := h.add next
      rw [whole] at added
      rw [behind_cons]
      refine Binds.bind (Binds.lift (added.append_right _)) ?_
      intro d hd
      have rest := renderClause_binds scope cs hd
      rw [whole] at rest
      exact rest

theorem renderBlock_renders (scope : Scope) :
    ∀ b : Block, Renders config (b.template scope) (renderBlock config scope b)
  | ⟨_, distinct, items, table, asName, joins, criteria, groupBy⟩ => by
    intro start
    have empty : Collector.empty.Fills config start [] := Collector.fills_empty
    have clause := renderClause_binds (scope.child (aliasesOf table asName joins)) criteria empty
    rw [Block.holes_template]
    refine Binds.bind clause ?_
    intro c hc
    refine Binds.pure ⟨?_, ?_⟩
    · simp only [Block.template, fill_join, fillAll_append, fillAll_map_ofText, holesOf_map_ofText,
        List.length_nil, Nat.add_zero, fillAll_whereClause hc]
    · simp only [Block.template, holes_join, holesOf_append, holesOf_map_ofText, holes_whereClause,
        List.nil_append, List.append_nil]
      rw [← holesOf_headed]
      exact hc.entries

theorem renderBlock_renders_of_mem (scope : Scope) :
    ∀ bs : List Block, ∀ b ∈ bs, Renders config (b.template scope) (renderBlock config scope b)
  | [], _, h => by simp at h
  | b :: bs, d, h => by
    have first := renderBlock_renders scope b
    have rest := renderBlock_renders_of_mem scope bs
    rcases List.mem_cons.mp h with rfl | h
    · exact first
    · exact rest d h

theorem renderSelect_renders (scope : Scope) :
    ∀ s : Select, Renders config (s.template scope) (renderSelect config scope s)
  | ⟨blocks, orderBy, paging⟩ => by
    intro start
    have empty : Collector.empty.Fills config start [] := Collector.fills_empty
    have rows := collect_binds _ _ blocks
      (fun b hb => (renderBlock_renders_of_mem scope blocks b hb).unioned b.union) empty
    rw [← renderBlocks_eq_collect, ← blockTemplates_eq_map, List.nil_append] at rows
    have whole : Template.holes (Select.template scope ⟨blocks, orderBy, paging⟩) =
        holesOf (blockTemplates scope blocks) ++ holesOf (paging.toList.map Paging.template) := by
      simp [Select.template]
    rw [whole]
    refine Binds.bind (rows.append_right _) ?_
    intro c hc
    have sorted := hc.addAll (fillEach_ofText (orderByTexts orderBy))
    rw [holesOf_append, holesOf_map_ofText, List.append_nil] at sorted
    refine Binds.bind (Binds.lift (sorted.append_right _)) ?_
    intro d hd
    rw [Select.template]
    rcases paging with _ | p
    · rw [Option.toList_none, List.map_nil, List.append_nil, holesOf_nil, List.append_nil]
      exact Binds.pure (hd.join " ")
    · have page : Renders config p.template (renderPaging config p) := renderPaging_renders p
      rw [Option.toList_some, List.map_singleton, holesOf_cons, holesOf_nil, List.append_nil,
        List.length_append, ← Nat.add_assoc]
      refine Binds.bind ((page _).append_left _) ?_
      intro f hf
      have behind : f.Fills config (start + (holesOf (blockTemplates scope blocks ++
          (orderByTexts orderBy).map ofText)).length) p.template := by
        simpa using hf
      have added := hd.add behind
      rw [holesOf_append, holesOf_append, holesOf_map_ofText, holesOf_cons, holesOf_nil,
        List.append_nil, List.append_nil] at added
      refine Binds.bind (Binds.lift added) ?_
      intro e he
      exact Binds.pure (he.join " ")

end

end Rendering

end BoundSql
