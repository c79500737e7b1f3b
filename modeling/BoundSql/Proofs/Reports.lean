import BoundSql.Condition.Combinators
import BoundSql.Rendered

/-!
# What a rendering reports

`Statement.conditions` lists the conditions that a rendering comes to, each node before the nodes
below it and a sub-select in the place of its criterion, and `Statement.emptyLists` those of them
that are left out because their list is empty. Whatever becomes of the criteria around them, each of
these is reported once and in this order, and a summary of the whole is the last event
(`render_reports`).
-/

namespace BoundSql

mutual

/-- The conditions of a criterion, behind their columns: its own, then those below it. -/
def Criterion.conditions : Criterion → List (Column × Condition Select Value)
  | ⟨_, test, children⟩ => test.conditions ++ criteriaConditions children

def criteriaConditions : List Criterion → List (Column × Condition Select Value)
  | [] => []
  | c :: cs => c.conditions ++ criteriaConditions cs

def Test.conditions : Test → List (Column × Condition Select Value)
  | .column column ⟨operator, operand, upper, onEmptyList⟩ =>
    (column, ⟨operator, operand, upper, onEmptyList⟩) :: operandConditions operand
  | .existence query _ => query.conditions
  | .group => []

/-- The conditions of a sub-query that is compared with; behind a closed gate there is none. -/
def operandConditions : Operand Select Value → List (Column × Condition Select Value)
  | .noValue _ => []
  | .single _ => []
  | .pair _ => []
  | .list _ => []
  | .column _ => []
  | .select none => []
  | .select (some query) => query.conditions

def Block.conditions : Block → List (Column × Condition Select Value)
  | ⟨_, _, _, _, _, _, criteria, _⟩ => criteriaConditions criteria

def blocksConditions : List Block → List (Column × Condition Select Value)
  | [] => []
  | b :: bs => b.conditions ++ blocksConditions bs

def Select.conditions : Select → List (Column × Condition Select Value)
  | ⟨blocks, _, _⟩ => blocksConditions blocks

end

namespace Statement

/-- The conditions of a statement, in the order in which a rendering comes to them. -/
def conditions : Statement → List (Column × Condition Select Value)
  | .select s => s.conditions
  | .insert _ => []
  | .insertMultiple _ => []
  | .update u => criteriaConditions u.criteria
  | .delete d => criteriaConditions d.criteria

def emptyLists (s : Statement) : List (Column × Condition Select Value) :=
  s.conditions.filter fun c => c.2.isEmptyList

end Statement

/-- What is reported of a condition that is left out because its list is empty. -/
def elisionEvents (c : Column × Condition Select Value) : List Event :=
  c.2.onEmptyList.toList.map Event.emptyList ++ [.elided c.1.table.name c.1.name]

/-- What is reported of those of the conditions whose list is empty. -/
def eventsOf (conditions : List (Column × Condition Select Value)) : List Event :=
  (conditions.filter fun c => c.2.isEmptyList).flatMap elisionEvents

theorem eventsOf_append (cs ds : List (Column × Condition Select Value)) :
    eventsOf (cs ++ ds) = eventsOf cs ++ eventsOf ds := by
  simp only [eventsOf, List.filter_append, List.flatMap_append]

theorem eventsOf_cons_of_not_empty {c : Column × Condition Select Value}
    {cs : List (Column × Condition Select Value)} (h : c.2.isEmptyList = false) :
    eventsOf (c :: cs) = eventsOf cs := by
  simp [eventsOf, h]

namespace Rendering

/-- Whenever the rendering succeeds, it has reported these events and no others. -/
def Reports {α : Type} (events : List Event) (m : Rendering α) : Prop :=
  ∀ ⦃start stop : Progress⦄ ⦃a : α⦄, m.run start = .ok (a, stop) →
    stop.events = start.events ++ events

section Rules

variable {α β : Type} {m : Rendering α} {f : α → Rendering β} {es fs : List Event}

theorem Reports.pure (a : α) : Reports [] (Pure.pure a : Rendering α) := by
  intro start stop b run
  cases run
  exact (List.append_nil _).symm

theorem Reports.lift (e : Except Collision α) : Reports [] (liftM e : Rendering α) := by
  intro start stop a run
  obtain ⟨-, rfl⟩ := run_lift_inv run
  exact (List.append_nil _).symm

theorem Reports.report (event : Event) : Reports [event] (report event) := by
  intro start stop a run
  cases run
  rfl

theorem Reports.bind (hm : Reports es m) (hf : ∀ a, Reports fs (f a)) :
    Reports (es ++ fs) (m >>= f) := by
  intro start stop b run
  obtain ⟨a, mid, first, second⟩ := run_bind_inv run
  rw [hf a second, hm first, List.append_assoc]

/-- What comes last and reports nothing adds nothing. -/
theorem Reports.bind_silent (hm : Reports es m) (hf : ∀ a, Reports [] (f a)) :
    Reports es (m >>= f) := by
  have both := hm.bind hf
  rwa [List.append_nil] at both

end Rules

variable {config : Config}

theorem bindValue_silent (column : Option Column) (value : Value) (into : Parameters) :
    Reports [] (bindValue config column value into) := by
  intro start stop a run
  rw [bindValue] at run
  obtain ⟨_, same, got, rest⟩ := run_bind_inv run
  cases got
  obtain ⟨parameters, mid, inserted, last⟩ := run_bind_inv rest
  obtain ⟨-, rfl⟩ := run_lift_inv inserted
  cases last
  exact (List.append_nil _).symm

theorem bindValues_silent (column : Option Column) : ∀ (values : List Value) (into : Parameters),
    Reports [] (bindValues config column values into)
  | [], _ => Reports.pure _
  | v :: vs, into =>
    (bindValue_silent column v into).bind fun p =>
      (bindValues_silent column vs p.2).bind fun _ => Reports.pure _

theorem collect_silent : ∀ {ms : List (Rendering Fragment)} (c : Collector),
    (∀ m ∈ ms, Reports [] m) → Reports [] (collect c ms)
  | [], c, _ => Reports.pure c
  | m :: ms, c, h => by
    obtain ⟨first, rest⟩ := List.forall_mem_cons.mp h
    exact first.bind fun f => (Reports.lift _).bind fun d => collect_silent d rest

theorem renderPaging_silent : ∀ p : Paging, Reports [] (renderPaging config p)
  | .limit _ none => (bindValue_silent _ _ _).bind fun _ => Reports.pure _
  | .limit _ (some _) =>
    (bindValue_silent _ _ _).bind fun _ => (bindValue_silent _ _ _).bind fun _ => Reports.pure _
  | .fetch none none => Reports.pure _
  | .fetch (some _) none => (bindValue_silent _ _ _).bind fun _ => Reports.pure _
  | .fetch none (some _) => (bindValue_silent _ _ _).bind fun _ => Reports.pure _
  | .fetch (some _) (some _) =>
    (bindValue_silent _ _ _).bind fun _ => (bindValue_silent _ _ _).bind fun _ => Reports.pure _

theorem reportElided_reports (column : Column) (condition : Condition Select Value) :
    Reports (elisionEvents (column, condition)) (reportElided column condition.onEmptyList) := by
  unfold reportElided elisionEvents
  rcases condition.onEmptyList with _ | label
  · exact Reports.report _
  · exact (Reports.report _).bind fun _ => Reports.report _

mutual

theorem renderCriterion_reports (scope : Scope) : ∀ c : Criterion,
    Reports (eventsOf c.conditions) (renderCriterion config scope c)
  | ⟨connector, test, children⟩ => by
    have own := renderTest_reports scope test
    have below := renderChildren_reports scope children
    rw [Criterion.conditions, eventsOf_append, renderCriterion]
    refine own.bind fun f => below.bind_silent fun rs => ?_
    refine (Reports.lift _).bind fun assembled => ?_
    cases assembled <;> exact Reports.pure _

theorem renderChildren_reports (scope : Scope) : ∀ cs : List Criterion,
    Reports (eventsOf (criteriaConditions cs)) (renderChildren config scope cs)
  | [] => Reports.pure _
  | c :: cs => by
    have first := renderCriterion_reports scope c
    have rest := renderChildren_reports scope cs
    rw [criteriaConditions, eventsOf_append, renderChildren]
    refine first.bind fun r => rest.bind_silent fun rs => ?_
    cases r <;> exact Reports.pure _

theorem renderTest_reports (scope : Scope) : ∀ t : Test,
    Reports (eventsOf t.conditions) (renderTest config scope t)
  | .column column ⟨operator, operand, upper, onEmptyList⟩ => by
    rw [Test.conditions, renderTest]
    exact renderOperand_reports scope column _ ⟨operator, operand, upper, onEmptyList⟩
  | .existence query negated => by
    rw [Test.conditions, renderTest]
    exact (renderSelect_reports scope query).bind_silent fun _ => Reports.pure _
  | .group => Reports.pure _

theorem renderOperand_reports (scope : Scope) (column : Column) (left : String) :
    ∀ condition : Condition Select Value,
      Reports (eventsOf ((column, condition) :: operandConditions condition.operand))
        (renderOperand config scope column left condition.onEmptyList condition.operand)
  | ⟨_, .noValue true, _, _⟩ => Reports.pure _
  | ⟨_, .noValue false, _, _⟩ => Reports.pure _
  | ⟨_, .single none, _, _⟩ => Reports.pure _
  | ⟨_, .single (some _), _, _⟩ => (bindValue_silent _ _ _).bind fun _ => Reports.pure _
  | ⟨_, .pair none, _, _⟩ => Reports.pure _
  | ⟨_, .pair (some (_, _)), _, _⟩ =>
    (bindValue_silent _ _ _).bind fun _ => (bindValue_silent _ _ _).bind fun _ => Reports.pure _
  | ⟨operator, .list [], upper, onEmptyList⟩ => by
    -- of all closed conditions only this one is reported
    rw [renderOperand]
    exact (reportElided_reports column ⟨operator, .list [], upper, onEmptyList⟩).bind
      fun _ => Reports.pure _
  | ⟨_, .list (_ :: _), _, _⟩ => (bindValues_silent _ _ _).bind fun _ => Reports.pure _
  | ⟨_, .column none, _, _⟩ => Reports.pure _
  | ⟨_, .column (some _), _, _⟩ => Reports.pure _
  | ⟨_, .select none, _, _⟩ => Reports.pure _
  | ⟨_, .select (some query), _, _⟩ => by
    rw [eventsOf_cons_of_not_empty rfl, operandConditions, renderOperand]
    exact (renderSelect_reports scope query).bind_silent fun _ => Reports.pure _

theorem renderClause_reports (scope : Scope) : ∀ (cs : List Criterion) (c : Collector),
    Reports (eventsOf (criteriaConditions cs)) (renderClause config scope c cs)
  | [], c => Reports.pure c
  | c :: cs, collector => by
    have first := renderCriterion_reports scope c
    have rest := renderClause_reports scope cs
    rw [criteriaConditions, eventsOf_append, renderClause]
    refine first.bind fun r => ?_
    cases r with
    | none => exact rest collector
    | some r => exact (Reports.lift _).bind rest

theorem renderBlocks_reports (scope : Scope) : ∀ (bs : List Block) (c : Collector),
    Reports (eventsOf (blocksConditions bs)) (renderBlocks config scope c bs)
  | [], c => Reports.pure c
  | b :: bs, collector => by
    have first := renderBlock_reports scope b
    have rest := renderBlocks_reports scope bs
    rw [blocksConditions, eventsOf_append, renderBlocks]
    exact first.bind fun f => (Reports.lift _).bind rest

theorem renderBlock_reports (scope : Scope) : ∀ b : Block,
    Reports (eventsOf b.conditions) (renderBlock config scope b)
  | ⟨_, distinct, items, table, asName, joins, criteria, groupBy⟩ => by
    have clause := renderClause_reports (scope.child (aliasesOf table asName joins)) criteria
    rw [Block.conditions, renderBlock]
    exact (clause .empty).bind_silent fun _ => Reports.pure _

theorem renderSelect_reports (scope : Scope) : ∀ s : Select,
    Reports (eventsOf s.conditions) (renderSelect config scope s)
  | ⟨blocks, orderBy, paging⟩ => by
    have rows := renderBlocks_reports scope blocks
    rw [Select.conditions, renderSelect]
    refine (rows .empty).bind_silent fun c => (Reports.lift _).bind fun d => ?_
    cases paging with
    | none => exact Reports.pure _
    | some p =>
      exact (renderPaging_silent p).bind fun f => (Reports.lift _).bind fun _ => Reports.pure _

end

theorem withWhere_reports (scope : Scope) (f : Fragment) (criteria : List Criterion) :
    Reports (eventsOf (criteriaConditions criteria)) (withWhere config scope f criteria) := by
  have clause : Reports (eventsOf (criteriaConditions criteria))
      (renderClause config scope .empty criteria) :=
    renderClause_reports scope criteria .empty
  have whole : Reports (eventsOf (criteriaConditions criteria))
      (renderWhere config scope criteria) := by
    refine clause.bind_silent fun c => ?_
    cases c.isEmpty <;> exact Reports.pure _
  refine whole.bind_silent fun r => ?_
  cases r with
  | none => exact Reports.pure _
  | some clause => exact (Reports.lift _).bind fun _ => Reports.pure _

theorem renderAssigned_silent (scope : Scope) (column : Column) : ∀ a : Assigned,
    Reports [] (renderAssigned config scope column a)
  | .null => Reports.pure _
  | .constant _ => Reports.pure _
  | .stringConstant _ => Reports.pure _
  | .value _ => (bindValue_silent _ _ _).bind fun _ => Reports.pure _
  | .column _ => Reports.pure _

theorem renderRow_silent (scope : Scope) (columns : List Column) (row : List Assigned) :
    Reports [] (renderRow config scope columns row) := by
  have cells : ∀ m ∈ (columns.zip row).map fun p => renderAssigned config scope p.1 p.2,
      Reports [] m :=
    List.forall_mem_map.mpr fun p _ => renderAssigned_silent scope p.1 p.2
  rw [List.map_zip_eq_zipWith] at cells
  exact (collect_silent _ cells).bind fun _ => Reports.pure _

theorem renderStatement_reports (scope : Scope) (s : Statement) :
    Reports (eventsOf s.conditions) (renderStatement config scope s) := by
  cases s with
  | select s => exact renderSelect_reports scope s
  | insert i =>
    refine (collect_silent _ ?_).bind fun _ => Reports.pure _
    exact List.forall_mem_map.mpr fun a _ => renderAssigned_silent scope a.column a.value
  | insertMultiple i =>
    refine (collect_silent _ ?_).bind fun _ => Reports.pure _
    exact List.forall_mem_map.mpr fun row _ => renderRow_silent scope i.columns row
  | update u =>
    refine (collect_silent _ ?_).bind fun c => withWhere_reports scope _ u.criteria
    exact List.forall_mem_map.mpr fun a _ =>
      (renderAssigned_silent scope a.column a.value).bind fun _ => Reports.pure _
  | delete d => exact withWhere_reports scope _ d.criteria

/-- Rendering a statement on its own reports each condition that is left out because its list is
empty, in the order in which they stand: what was asked to be reported of it, if anything, and then
its column. The last event is the summary, with the number of parameters and the text, cut off if
it is longer than the limit. There are no other events. -/
theorem render_reports {config : Config} {s : Statement} {r : Rendered} {events : List Event}
    (run : s.render config = .ok (r, events)) :
    ∃ shown : String,
      events = s.emptyLists.flatMap elisionEvents ++
        [.rendered s.kind r.parameters.entries.length shown] ∧
      ((∀ n, config.reportLimit = some n → r.sql.length ≤ n) → shown = r.sql) ∧
      ∀ n, config.reportLimit = some n → n < r.sql.length →
        shown.toList = r.sql.toList.take n ++ ['.', '.', '.'] := by
  rw [Statement.render] at run
  rcases rendered : (renderStatement config .empty s).run {} with c | ⟨f, stop⟩ <;>
    rw [rendered] at run
  · cases run
  · cases run
    have reported : stop.events = eventsOf s.conditions := renderStatement_reports _ s rendered
    refine ⟨reportedSql config.reportLimit f.text, ?_, ?_, ?_⟩
    · rw [reported]
      rfl
    · intro fits
      unfold reportedSql
      rcases limit : config.reportLimit with _ | n
      · rfl
      · exact if_neg (Nat.not_lt.mpr (fits n limit))
    · intro n limit long
      simp [reportedSql, limit, if_pos long]

def emptyListColumn (name : String) : Column := ⟨⟨0, "person"⟩, name, .integer, none, none⟩

/-- An empty list over a sub-select that has one too, a closed list, and another closed
condition. -/
def emptyListsDelete : Statement :=
  let column := emptyListColumn
  .delete ⟨⟨0, "person"⟩,
    [⟨none, .column (column "id") ((Condition.list .isIn []).reportingEmptyList "ids"),
        [.existing ⟨[⟨none, false, [.ofColumn (column "id")], ⟨0, "person"⟩, some "p", [],
          [.ofCondition (column "age") (.list .isNotIn [])], []⟩], [], none⟩]⟩,
      ⟨some .or, .column (column "city") (Condition.list .isIn [.null]).close, []⟩,
      ⟨some .or, .column (column "name") Condition.isNull.close, []⟩]⟩

/-- An empty list behind the values of an update. -/
def emptyListUpdate : Statement :=
  .update ⟨⟨0, "person"⟩, [⟨emptyListColumn "age", .value (.int 36)⟩],
    [.ofCondition (emptyListColumn "id") (.list .isIn [])]⟩

theorem emptyListsDelete_reports :
    emptyListsDelete.render { reportLimit := some 11 } =
        .ok (⟨"delete from person where exists (select p.id from person p)", .empty, .delete, []⟩,
          [.emptyList "ids", .elided "person" "id", .elided "person" "age",
            .elided "person" "city", .rendered .delete 0 "delete from..."]) ∧
      (∃ shown : String, [.emptyList "ids", .elided "person" "id", .elided "person" "age",
          .elided "person" "city", .rendered .delete 0 "delete from..."] =
            emptyListsDelete.emptyLists.flatMap elisionEvents ++ [.rendered .delete 0 shown] ∧
          shown.toList = "delete from".toList ++ ['.', '.', '.']) ∧
      ∃ r, emptyListUpdate.render {} =
        .ok (r, [.elided "person" "id", .rendered .update 1 "update person set age = $1"]) := by
  have run : emptyListsDelete.render { reportLimit := some 11 } =
      .ok (⟨"delete from person where exists (select p.id from person p)", .empty, .delete, []⟩,
        [.emptyList "ids", .elided "person" "id", .elided "person" "age", .elided "person" "city",
          .rendered .delete 0 "delete from..."]) := by
    rfl
  obtain ⟨shown, events, -, cut⟩ := render_reports run
  refine ⟨run, ⟨shown, events, cut 11 rfl (by decide)⟩, ?_⟩
  obtain ⟨r, told, update⟩ : ∃ r told, emptyListUpdate.render {} = .ok (r, told) := ⟨_, _, rfl⟩
  obtain ⟨report, same, uncut, -⟩ := render_reports update
  have sql : r.sql = "update person set age = $1" := by
    cases update
    rfl
  have bound : r.parameters.entries.length = 1 := by
    cases update
    rfl
  have short : ∀ n, Config.reportLimit {} = some n → r.sql.length ≤ n := by
    rintro _ ⟨⟩
    rw [sql]
    decide
  refine ⟨r, ?_⟩
  rw [update, same, uncut short, sql, bound]
  rfl

end Rendering

end BoundSql
