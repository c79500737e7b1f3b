import BoundSql.Proofs.Numbering

/-!
# When a where clause disappears

A node of a where clause is live if it tests something itself: the existence of rows, or a condition
whose gate is open. A criterion renders nothing exactly if neither it nor a node below it is live,
at whatever depth, and then it binds nothing either.

So an update, a delete or a block of a select has a where clause exactly if some node of its
criteria is live. Without one it is rendered as if it had no criteria (`where_absent_iff_dead`).
-/

namespace BoundSql

open Template

/-! ## Live nodes -/

def Test.isLive : Test → Bool
  | .column _ condition => condition.isOpen
  | .existence _ _ => true
  | .group => false

mutual

/-- The criterion and all below it, as far as the where clause itself goes. -/
def Criterion.nodes : Criterion → List Criterion
  | ⟨connector, test, children⟩ => ⟨connector, test, children⟩ :: criteriaNodes children

def criteriaNodes : List Criterion → List Criterion
  | [] => []
  | c :: cs => c.nodes ++ criteriaNodes cs

end

/-- The criterion or one below it is live. -/
def Criterion.isLive (c : Criterion) : Bool := c.nodes.any fun n => n.test.isLive

/-- One of the criteria, or one below them, is live. -/
def criteriaLive (cs : List Criterion) : Bool := (criteriaNodes cs).any fun n => n.test.isLive

theorem Criterion.isLive_mk (connector : Option Connector) (test : Test)
    (children : List Criterion) :
    Criterion.isLive ⟨connector, test, children⟩ = (test.isLive || criteriaLive children) := by
  rw [Criterion.isLive, Criterion.nodes, List.any_cons, criteriaLive]

theorem criteriaLive_cons (c : Criterion) (cs : List Criterion) :
    criteriaLive (c :: cs) = (c.isLive || criteriaLive cs) := by
  rw [criteriaLive, criteriaNodes, List.any_append, Criterion.isLive, criteriaLive]

theorem criteriaLive_eq_false_iff {cs : List Criterion} :
    criteriaLive cs = false ↔ ∀ n ∈ criteriaNodes cs, n.test.isLive = false := by
  simp only [criteriaLive, List.any_eq_false, Bool.not_eq_true]

/-! ## Their templates -/

theorem isSome_operandTemplate (scope : Scope) (column : Column) (left : String)
    (o : Operand Select Value) : (operandTemplate scope column left o).isSome = o.isOpen := by
  cases o with
  | noValue isOpen => cases isOpen <;> rfl
  | single value => cases value <;> rfl
  | pair values => cases values <;> rfl
  | list values => cases values <;> rfl
  | column other => cases other <;> rfl
  | select query => cases query <;> rfl

theorem Test.isSome_template (scope : Scope) (t : Test) :
    (t.template scope).isSome = t.isLive := by
  cases t with
  | column column condition => exact isSome_operandTemplate scope column _ condition.operand
  | existence query negated => rfl
  | group => rfl

theorem Template.isSome_assembled (own : Option Template)
    (below : List (Option Connector × Template)) :
    (assembled own below).isSome = (own.isSome || !below.isEmpty) := by
  rcases own with _ | t
  · rcases below with _ | ⟨first, rest⟩ <;> rfl
  · rfl

mutual

theorem Criterion.isSome_template (scope : Scope) : ∀ c : Criterion,
    (c.template scope).isSome = c.isLive
  | ⟨connector, test, children⟩ => by
    have below := isEmpty_criteriaTemplates scope children
    rw [Criterion.template, isSome_assembled, Test.isSome_template, below, Bool.not_not,
      Criterion.isLive_mk]

theorem isEmpty_criteriaTemplates (scope : Scope) : ∀ cs : List Criterion,
    (criteriaTemplates scope cs).isEmpty = !criteriaLive cs
  | [] => rfl
  | c :: cs => by
    have first := Criterion.isSome_template scope c
    have rest := isEmpty_criteriaTemplates scope cs
    rw [criteriaTemplates, criteriaLive_cons, ← first]
    rcases c.template scope with _ | t
    · exact rest
    · rfl

end

theorem criteriaTemplates_eq_nil_iff {scope : Scope} {cs : List Criterion} :
    criteriaTemplates scope cs = [] ↔ criteriaLive cs = false := by
  rw [← List.isEmpty_iff, isEmpty_criteriaTemplates, Bool.not_eq_true']

theorem Criterion.template_eq_none_iff {scope : Scope} {c : Criterion} :
    c.template scope = none ↔ c.isLive = false := by
  rw [← Criterion.isSome_template scope c, Option.isSome_eq_false_iff, Option.isNone_iff_eq_none]

theorem Criterion.holes_eq_nil_of_dead {c : Criterion} (dead : c.isLive = false) :
    c.holes = [] := by
  rw [← c.holes_template .empty, Criterion.template_eq_none_iff.mpr dead]
  rfl

namespace Rendering

variable {config : Config} {scope : Scope} {start stop : Progress}

/-! ## Criteria that render nothing -/

theorem renderCriterion_template {c : Criterion} {r : Option RenderedCriterion}
    (run : (renderCriterion config scope c).run start = .ok (r, stop)) :
    r.isSome = c.isLive ∧ stop.next = start.next + c.holes.length := by
  have outcome := @renderCriterion_binds config scope c start.next start.events
  rw [run] at outcome
  obtain ⟨next, rel⟩ := outcome
  refine ⟨?_, next⟩
  rw [← Criterion.isSome_template scope c]
  generalize c.template scope = t at rel
  cases rel with
  | none => rfl
  | some _ => rfl

theorem exists_run_of_dead {c : Criterion} (dead : c.isLive = false) :
    ∃ stop, (renderCriterion config scope c).run start = .ok (none, stop) := by
  rcases run : (renderCriterion config scope c).run start with e | ⟨r, stop⟩
  · have clash := @renderCriterion_binds config scope c start.next start.events
    rw [run, Criterion.holes_eq_nil_of_dead dead] at clash
    exact absurd List.nodup_nil clash
  · have none := (renderCriterion_template run).1
    rw [dead, Option.isSome_eq_false_iff, Option.isNone_iff_eq_none] at none
    exact ⟨stop, by rw [none]⟩

theorem renderCriterion_none_iff {c : Criterion} :
    (∃ stop, (renderCriterion config scope c).run start = .ok (none, stop)) ↔
      c.isLive = false := by
  constructor
  · rintro ⟨stop, run⟩
    exact (renderCriterion_template run).1.symm
  · exact exists_run_of_dead

/-! ## What a rendering gives -/

/-- What a rendering gives besides its events: the text, the parameters and the number of the next
value, or nothing if it failed. -/
def given (outcome : Except Collision (Fragment × Progress)) :
    Option (String × Parameters × Nat) :=
  outcome.toOption.map fun (f, after) => (f.text, f.parameters, after.next)

/-- Renderings of one template give the same. -/
theorem Renders.given_eq {t : Template} {m m' : Rendering Fragment} (h : Renders config t m)
    (h' : Renders config t m') (start : Progress) :
    given (m.run start) = given (m'.run start) := by
  rcases run : m.run start with c | ⟨f, after⟩
  · obtain ⟨c', run'⟩ := h'.fails_iff.mpr (h.error run)
    rw [run']
    rfl
  · rcases run' : m'.run start with c' | ⟨f', after'⟩
    · exact absurd (h.ok run).1.nodup (h'.error run')
    · obtain ⟨fills, next⟩ := h.ok run
      obtain ⟨fills', next'⟩ := h'.ok run'
      have parameters : f.parameters = f'.parameters :=
        Parameters.ext (fills.entries.trans fills'.entries.symm)
      simp only [given, Except.toOption, Option.map_some, fills.text, fills'.text, parameters,
        next, next']

/-! ## Statements with and without a where clause -/

/-- The text is the given one with a where clause put into it. -/
def HasWhere (bare text : String) : Prop :=
  ∃ before clause behind, bare = before ++ behind ∧
    text = before ++ " where " ++ clause ++ behind

theorem not_hasWhere_self (text : String) : ¬ HasWhere text text := by
  rintro ⟨before, clause, behind, bare, whole⟩
  have length := congrArg String.length (bare.symm.trans whole)
  have word : " where ".length = 7 := rfl
  simp only [String.length_append, word] at length
  omega

theorem hasWhere_intercalate {front : List String} (nonempty : front ≠ []) (clause : String)
    (back : List String) :
    HasWhere (String.intercalate " " (front ++ back))
      (String.intercalate " " (front ++ ["where " ++ clause] ++ back)) := by
  have word : " where " = " " ++ "where " := rfl
  rcases back with _ | ⟨first, rest⟩
  · refine ⟨String.intercalate " " front, clause, "", ?_, ?_⟩
    · rw [List.append_nil, String.append_empty]
    · rw [List.append_nil, String.intercalate_append_of_ne_nil nonempty (List.cons_ne_nil _ _),
        String.intercalate_singleton, word]
      simp only [String.append_assoc, String.append_empty]
  · refine ⟨String.intercalate " " front, clause, " " ++ String.intercalate " " (first :: rest),
      ?_, ?_⟩
    · rw [String.intercalate_append_of_ne_nil nonempty (List.cons_ne_nil _ _),
        String.append_assoc]
    · rw [List.append_assoc, List.singleton_append,
        String.intercalate_append_of_ne_nil nonempty (List.cons_ne_nil _ _),
        String.intercalate_cons_cons, word]
      simp only [String.append_assoc]

/-- What is rendered with criteria has a where clause exactly if one of their nodes is live, and
without a clause it is what is rendered with no criteria at all. -/
def ShowsLive (m : List Criterion → Rendering Fragment) : Prop :=
  ∀ (cs : List Criterion) (start : Progress),
    ((∀ n ∈ criteriaNodes cs, n.test.isLive = false) →
        given ((m cs).run start) = given ((m []).run start)) ∧
      ∀ f stop, (m cs).run start = .ok (f, stop) →
        ∃ bare last, (m []).run start = .ok (bare, last) ∧
          (HasWhere bare.text f.text ↔ ∃ n ∈ criteriaNodes cs, n.test.isLive = true)

theorem showsLive_of_renders (config : Config) (scope : Scope)
    {m : List Criterion → Rendering Fragment} {front : List Template} (nonempty : front ≠ [])
    (back : List String)
    (renders : ∀ cs, Renders config (join " " (front ++
      (whereClause (criteriaTemplates scope cs)).toList ++ back.map ofText)) (m cs)) :
    ShowsLive m := by
  intro cs start
  have bareRenders : Renders config (join " " (front ++ back.map ofText)) (m []) := by
    simpa [criteriaTemplates, whereClause] using renders []
  by_cases dead : criteriaLive cs = false
  · have same : Renders config (join " " (front ++ back.map ofText)) (m cs) := by
      simpa [criteriaTemplates_eq_nil_iff.mpr dead, whereClause] using renders cs
    refine ⟨fun _ => same.given_eq bareRenders start, ?_⟩
    intro f stop run
    rcases bareRun : (m []).run start with c | ⟨bare, last⟩
    · exact absurd (same.ok run).1.nodup (bareRenders.error bareRun)
    · refine ⟨bare, last, rfl, ?_⟩
      rw [(same.ok run).1.text, ← (bareRenders.ok bareRun).1.text]
      refine iff_of_false (not_hasWhere_self _) ?_
      rintro ⟨n, mem, live⟩
      rw [criteriaLive_eq_false_iff.mp dead n mem] at live
      cases live
  · have live : ∃ n ∈ criteriaNodes cs, n.test.isLive = true := by
      simpa [criteriaLive] using dead
    refine ⟨fun all => absurd (criteriaLive_eq_false_iff.mpr all) dead, ?_⟩
    intro f stop run
    have whole := renders cs
    have rendered : criteriaTemplates scope cs ≠ [] :=
      fun none => dead (criteriaTemplates_eq_nil_iff.mp none)
    rw [whereClause, if_neg (by simpa using rendered), Option.toList_some] at whole
    obtain ⟨fills, -⟩ := whole.ok run
    rcases bareRun : (m []).run start with c | ⟨bare, last⟩
    · have clash := bareRenders.error bareRun
      refine absurd fills.nodup ?_
      rw [holes_join, holesOf_append, holesOf_map_ofText, List.append_nil] at clash
      rw [holes_join, holesOf_append, holesOf_map_ofText, List.append_nil, holesOf_append]
      exact clash.append_right _
    · refine ⟨bare, last, rfl, iff_of_true ?_ live⟩
      have written : fillAll config start.next front ≠ [] := by
        rwa [← List.length_pos_iff, length_fillAll, List.length_pos_iff]
      rw [fills.text, (bareRenders.ok bareRun).1.text]
      simp only [fill_join, fillAll_append, fillAll_map_ofText, fillAll, fill_text]
      exact hasWhere_intercalate written _ back

theorem renderDelete_showsLive (config : Config) (scope : Scope) (d : Delete) :
    ShowsLive fun cs => renderDelete config scope { d with criteria := cs } := by
  refine showsLive_of_renders config scope
    (List.cons_ne_nil (ofText ("delete from " ++ d.table.name)) []) [] ?_
  intro cs
  rw [List.map_nil, List.append_nil]
  exact renderDelete_renders scope { d with criteria := cs }

theorem renderUpdate_showsLive (config : Config) (scope : Scope) (u : Update) :
    ShowsLive fun cs => renderUpdate config scope { u with criteria := cs } := by
  refine showsLive_of_renders config scope
    (List.cons_ne_nil (.text ("update " ++ u.table.name ++ " set ") ::
      join ", " (u.assignments.map (Assignment.template scope))) []) [] ?_
  intro cs
  rw [List.map_nil, List.append_nil]
  exact renderUpdate_renders scope { u with criteria := cs }

theorem renderBlock_showsLive (config : Config) (scope : Scope) (b : Block) :
    ShowsLive fun cs => renderBlock config scope { b with criteria := cs } := by
  have nonempty : (headTexts (scope.child b.aliases) b.distinct b.items b.table b.asName
      b.joins).map ofText ≠ [] := List.cons_ne_nil _ _
  refine showsLive_of_renders config (scope.child b.aliases) nonempty
    (groupByTexts (scope.child b.aliases) b.groupBy) ?_
  intro cs
  exact renderBlock_renders scope { b with criteria := cs }

/-- A criterion renders nothing exactly if no node of it is live, and then nothing is bound and the
number of the next value stays. So a delete, an update or a block of a select has a where clause
exactly if a node of its criteria is live; without one it is rendered as with no criteria at all. -/
theorem where_absent_iff_dead (config : Config) (scope : Scope) :
    (∀ (c : Criterion) (start : Progress),
      ((∃ stop, (renderCriterion config scope c).run start = .ok (none, stop)) ↔
          ∀ n ∈ c.nodes, n.test.isLive = false) ∧
        ∀ stop, (renderCriterion config scope c).run start = .ok (none, stop) →
          c.holes = [] ∧ stop.next = start.next) ∧
    (∀ d : Delete, ShowsLive fun cs => renderDelete config scope { d with criteria := cs }) ∧
    (∀ u : Update, ShowsLive fun cs => renderUpdate config scope { u with criteria := cs }) ∧
    ∀ b : Block, ShowsLive fun cs => renderBlock config scope { b with criteria := cs } := by
  refine ⟨?_, renderDelete_showsLive config scope, renderUpdate_showsLive config scope,
    renderBlock_showsLive config scope⟩
  intro c start
  refine ⟨?_, ?_⟩
  · rw [renderCriterion_none_iff, Criterion.isLive]
    simp only [List.any_eq_false, Bool.not_eq_true]
  · intro stop run
    obtain ⟨none, next⟩ := renderCriterion_template run
    have holes : c.holes = [] := Criterion.holes_eq_nil_of_dead none.symm
    rw [holes] at next
    exact ⟨holes, next⟩

/-- A delete with a condition below a closed one and a group. -/
def deleteBelow (condition : Condition Select Value) : Delete :=
  let column (name : String) : Column := ⟨⟨0, "person"⟩, name, .integer, none, none⟩
  ⟨⟨0, "person"⟩, [⟨none, .column (column "id") (Condition.single .equalTo .null).close,
    [⟨some .or, .group, [⟨none, .group, []⟩, ⟨some .and, .column (column "age") condition, []⟩]⟩]⟩]⟩

theorem deleteBelow_where :
    (∀ n ∈ criteriaNodes (deleteBelow (.list .isIn [])).criteria, n.test.isLive = false) ∧
      given ((renderDelete {} .empty (deleteBelow (.list .isIn []))).run {}) =
        given ((renderDelete {} .empty ⟨⟨0, "person"⟩, []⟩).run {}) ∧
      (renderDelete {} .empty (deleteBelow .isNull)).run {} =
        .ok (.ofText "delete from person where age is null", {}) ∧
      HasWhere "delete from person" "delete from person where age is null" := by
  have deletes := (where_absent_iff_dead {} .empty).2.1 ⟨⟨0, "person"⟩, []⟩
  have dead : ∀ n ∈ criteriaNodes (deleteBelow (.list .isIn [])).criteria,
      n.test.isLive = false := by
    decide +kernel
  have run : (renderDelete {} .empty (deleteBelow .isNull)).run {} =
      .ok (.ofText "delete from person where age is null", {}) := by
    rfl
  obtain ⟨bare, last, bareRun, shown⟩ := (deletes (deleteBelow .isNull).criteria {}).2 _ _ run
  cases bareRun
  refine ⟨dead, (deletes _ {}).1 dead, run, shown.mpr ?_⟩
  exact ⟨_, .tail _ (.tail _ (.tail _ (.head _))), rfl⟩

end Rendering

end BoundSql
