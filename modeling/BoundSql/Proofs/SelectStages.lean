import BoundSql.Proofs.Chapters
import BoundSql.Proofs.Liveness
import Mathlib.Logic.Relation

/-!
# Selects that are written call by call

`SelectStage.After` ties every stage to the calls before it. One call keeps that
(`SelectStage.After.call`), and so does a run, so that a built select has the blocks of the chapters
of the calls. The selects inside of criteria are built in the same way, so that what holds of a
built select holds of those inside of it at any depth (`SelectStage.written_selects`).
-/

namespace BoundSql

open SelectCall

/-! ## Stages and the calls before them -/

namespace SelectStage

/-- What a stage holds is what the calls before it wrote. -/
def After (calls : List SelectCall) : SelectStage → Prop
  | .unopened => calls = []
  | .listed none items distinct => calls = [.select items distinct]
  | .listed (some (d, kind)) items distinct =>
    ∃ before, calls = before ++ [.union kind, .select items distinct] ∧ d.Written [] before
  | .sourced d => d.Bare calls
  | .joining d kind table asName =>
    ∃ before, calls = before ++ [.join kind table asName] ∧ d.Bare before
  | .joined d => d.Bare calls
  | .meeting d clause => (d.meeting clause).Written [] calls ∧ d.block.groupBy = []
  | .grouped d => d.Written [] calls
  | .uniting d kind => ∃ before, calls = before ++ [.union kind] ∧ d.Written [] before
  | .ending e => e.Written calls
  | .limiting e _ => e.Written calls
  | .skipping e _ => e.Written calls
  | .fetching e _ _ => e.Written calls
  | .paged e _ => e.Written calls

namespace After

variable {calls : List SelectCall} {s next : SelectStage} {d : SelectDraft} {e : SelectEnding}

theorem bare (h : s.After calls) (taken : s.open? = some d) : d.Bare calls := by
  cases s <;> simp [open?] at taken <;> subst taken <;> exact h

theorem ungrouped (h : s.After calls) (taken : s.ungrouped? = some d) :
    d.Written [] calls ∧ d.block.groupBy = [] := by
  cases s <;> simp [ungrouped?, open?] at taken <;> subst taken
  · exact ⟨h.1, h.2.2⟩
  · exact ⟨h.1, h.2.2⟩
  · exact h

theorem held (h : s.After calls) (taken : s.held? = some d) : d.Written [] calls := by
  cases s <;> simp [held?, ungrouped?, open?] at taken <;> subst taken
  · exact h.1
  · exact h.1
  · exact h.1
  · exact h

theorem ending (h : s.After calls) (taken : s.ending? = some e) : e.Written calls := by
  cases s <;> simp [ending?, held?, ungrouped?, open?] at taken <;> subst taken
  · exact ⟨_, rfl, h.1⟩
  · exact ⟨_, rfl, h.1⟩
  · exact ⟨_, rfl, h.1⟩
  · exact ⟨_, rfl, h⟩
  · exact h

theorem select (h : s.After calls) {items : List SelectItem} {distinct : Bool}
    (step : s.call? (.select items distinct) = some next) :
    next.After (calls ++ [.select items distinct]) := by
  cases s <;> simp [call?] at step <;> subst step
  · exact congrArg (· ++ _) h
  · obtain ⟨before, rfl, written⟩ := h
    exact ⟨before, List.append_assoc .., written⟩

theorem source (h : s.After calls) {table : Table} {asName : Option String}
    (step : s.call? (.source table asName) = some next) :
    next.After (calls ++ [.source table asName]) := by
  cases s with
  | listed before items distinct =>
    rcases before with _ | ⟨d, kind⟩ <;> simp only [call?, Option.some.injEq] at step <;> subst step
    · subst h
      exact ⟨.select items table asName distinct, rfl, rfl⟩
    · obtain ⟨before, rfl, written⟩ := h
      rw [List.append_assoc]
      exact ⟨written.union kind items table asName distinct, rfl, rfl⟩
  | _ => simp [call?] at step

theorem join (h : s.After calls) {kind : JoinKind} {table : Table} {asName : Option String}
    (step : s.call? (.join kind table asName) = some next) :
    next.After (calls ++ [.join kind table asName]) := by
  obtain ⟨d, taken, rfl⟩ := Option.map_eq_some_iff.mp step
  exact ⟨calls, rfl, h.bare taken⟩

theorem on (h : s.After calls) {left right : Column}
    (step : s.call? (.on left right) = some next) : next.After (calls ++ [.on left right]) := by
  cases s with
  | joining d kind table asName =>
    simp only [call?, Option.some.injEq] at step
    subst step
    obtain ⟨before, rfl, written, bare, grouping⟩ := h
    rw [List.append_assoc]
    refine ⟨written.append [.join kind table asName, .on left right] (by simp [union?]) rfl
      (fun own block => ?_) rfl fun all => ?_, bare, grouping⟩
    · refine block.append_joins _ ⟨rfl, rfl⟩ ⟨rfl, rfl⟩ ?_
      simp [SelectDraft.join, joins_append_join, block.joins, conditions, joins]
    · rw [SelectDraft.join, List.forall_mem_append, List.forall_mem_singleton]
      exact ⟨all, _, [], rfl, rfl, fun c mem => absurd mem List.not_mem_nil⟩
  | _ => simp [call?] at step

theorem andOn (h : s.After calls) {left right : Column}
    (step : s.call? (.andOn left right) = some next) :
    next.After (calls ++ [.andOn left right]) := by
  cases s with
  | joined d =>
    simp only [call?, Option.some.injEq] at step
    subst step
    obtain ⟨written, bare, grouping⟩ := h
    refine ⟨written.append [.andOn left right] (by simp [union?]) rfl (fun own block => ?_) rfl
      (conjoined_refineLast left right d.block.joins), bare, grouping⟩
    refine block.append_joins _ ⟨rfl, rfl⟩ ⟨rfl, rfl⟩ ?_
    simp [SelectDraft.andOn, joins_append_andOn, block.joins]
  | _ => simp [call?] at step

theorem meet (h : s.After calls) {c : Criterion} (step : s.call? (.meet c) = some next) :
    next.After (calls ++ [.meet c]) := by
  obtain ⟨d, taken, rfl⟩ := Option.map_eq_some_iff.mp step
  obtain ⟨written, bare, grouping⟩ := h.bare taken
  refine ⟨written.append [.meet c] (by simp [union?]) rfl (fun own block => ?_) rfl id, grouping⟩
  refine block.append _ ⟨rfl, rfl⟩ ⟨rfl, rfl⟩ ⟨rfl, rfl⟩ ?_ ?_ (List.append_nil _).symm
  · rw [joins_append_of_ne own rfl rfl]
    exact block.joins
  · rw [bare]
    rfl

theorem meetAlso (h : s.After calls) {connector : Connector} {c : Criterion}
    (step : s.call? (.meetAlso connector c) = some next) :
    next.After (calls ++ [.meetAlso connector c]) := by
  cases s with
  | meeting d clause =>
    simp only [call?, Option.some.injEq] at step
    subst step
    obtain ⟨written, grouping⟩ := h
    refine ⟨written.append [.meetAlso connector c] (by simp [union?]) rfl (fun own block => ?_) rfl
      id, grouping⟩
    refine block.append _ ⟨rfl, rfl⟩ ⟨rfl, rfl⟩ ⟨rfl, rfl⟩ ?_ rfl (List.append_nil _).symm
    rw [joins_append_of_ne own rfl rfl]
    exact block.joins
  | _ => simp [call?] at step

theorem groupBy (h : s.After calls) {items : List SelectItem}
    (step : s.call? (.groupBy items) = some next) : next.After (calls ++ [.groupBy items]) := by
  obtain ⟨d, taken, rfl⟩ := Option.map_eq_some_iff.mp step
  obtain ⟨written, grouping⟩ := h.ungrouped taken
  refine written.append [.groupBy items] (by simp [union?]) rfl (fun own block => ?_) rfl id
  refine block.append _ ⟨rfl, rfl⟩ ⟨rfl, rfl⟩ ⟨rfl, rfl⟩ ?_ (List.append_nil _).symm ?_
  · rw [joins_append_of_ne own rfl rfl]
    exact block.joins
  · simp [grouping, SelectDraft.groupBy, SelectCall.grouping]

theorem union (h : s.After calls) {kind : UnionKind} (step : s.call? (.union kind) = some next) :
    next.After (calls ++ [.union kind]) := by
  obtain ⟨d, taken, rfl⟩ := Option.map_eq_some_iff.mp step
  exact ⟨calls, rfl, h.held taken⟩

theorem orderBy (h : s.After calls) {sorts : List SortSpec}
    (step : s.call? (.orderBy sorts) = some next) : next.After (calls ++ [.orderBy sorts]) := by
  obtain ⟨e, taken, rfl⟩ := Option.map_eq_some_iff.mp step
  exact SelectEnding.Written.snoc (c := .orderBy sorts) (h.ending taken) rfl

theorem limit (h : s.After calls) {n : Nat} (step : s.call? (.limit n) = some next) :
    next.After (calls ++ [.limit n]) := by
  obtain ⟨e, taken, rfl⟩ := Option.map_eq_some_iff.mp step
  exact (h.ending taken).paged rfl rfl

theorem offset (h : s.After calls) {n : Nat} (step : s.call? (.offset n) = some next) :
    next.After (calls ++ [.offset n]) := by
  unfold call? at step
  dsimp only at step
  split at step
  · cases step
    exact SelectEnding.Written.paged h rfl rfl
  · obtain ⟨e, taken, rfl⟩ := Option.map_eq_some_iff.mp step
    exact (h.ending taken).paged rfl rfl

theorem fetchFirst (h : s.After calls) {n : Nat} (step : s.call? (.fetchFirst n) = some next) :
    next.After (calls ++ [.fetchFirst n]) := by
  unfold call? at step
  dsimp only at step
  split at step
  · cases step
    exact SelectEnding.Written.paged h rfl rfl
  · obtain ⟨e, taken, rfl⟩ := Option.map_eq_some_iff.mp step
    exact (h.ending taken).paged rfl rfl

theorem rowsOnly (h : s.After calls) (step : s.call? .rowsOnly = some next) :
    next.After (calls ++ [.rowsOnly]) := by
  cases s with
  | fetching e offset first =>
    simp only [call?, Option.some.injEq] at step
    subst step
    exact SelectEnding.Written.paged h rfl rfl
  | _ => simp [call?] at step

theorem call (h : s.After calls) {c : SelectCall} (step : s.call? c = some next) :
    next.After (calls ++ [c]) := by
  cases c with
  | select items distinct => exact h.select step
  | source table asName => exact h.source step
  | join kind table asName => exact h.join step
  | on left right => exact h.on step
  | andOn left right => exact h.andOn step
  | meet c => exact h.meet step
  | meetAlso connector c => exact h.meetAlso step
  | groupBy items => exact h.groupBy step
  | union kind => exact h.union step
  | orderBy sorts => exact h.orderBy step
  | limit n => exact h.limit step
  | offset n => exact h.offset step
  | fetchFirst n => exact h.fetchFirst step
  | rowsOnly => exact h.rowsOnly step

theorem run (h : s.After calls) : ∀ {more : List SelectCall}, s.run? more = some next →
    next.After (calls ++ more) := by
  intro more
  induction more generalizing s calls with
  | nil =>
    intro done
    cases done
    rwa [List.append_nil]
  | cons c more ih =>
    intro done
    rw [run?, List.foldlM_cons] at done
    obtain ⟨mid, step, rest⟩ := Option.bind_eq_some_iff.mp done
    have after := ih (h.call step) rest
    rwa [List.append_assoc] at after

theorem build (h : s.After calls) {result : Except StatementError Select}
    (built : s.build? = some result) :
    ∃ e : SelectEnding, e.Written calls ∧ ∃ paging, result = e.build paging := by
  unfold build? at built
  split at built
  · exact ⟨_, h, _, (Option.some.inj built).symm⟩
  · exact ⟨_, h, _, (Option.some.inj built).symm⟩
  · exact ⟨_, h, _, (Option.some.inj built).symm⟩
  · obtain ⟨e, taken, rfl⟩ := Option.map_eq_some_iff.mp built
    exact ⟨e, h.ending taken, none, rfl⟩

end After

end SelectStage

/-! ## Written selects -/

/-- The blocks of the select are those of the chapters of the calls, with the unions between
these. -/
structure Select.WrittenBy (s : Select) (calls : List SelectCall) : Prop where
  blocks : List.Forall₂ Block.WrittenBy s.blocks (chapters calls)
  unions : s.blocks.map Block.union = none :: (calls.filterMap union?).map some
  orderBy : s.orderBy = calls.flatMap sorting

structure Select.WellFormed (s : Select) : Prop where
  blocks : s.blocks ≠ []
  /-- Every block but the first follows a union. -/
  unions : ∃ kinds : List UnionKind, s.blocks.map Block.union = none :: kinds.map some
  lists : ∀ b ∈ s.blocks, b.items ≠ []
  joins : ∀ b ∈ s.blocks, ∀ j ∈ b.joins, j.Conjoined ∧ j.OnOnce

def Test.query? : Test → Option Select
  | .column _ ⟨_, .select query, _, _⟩ => query
  | .column _ _ => none
  | .existence query _ => some query
  | .group => none

/-- The selects that the criterion and those below it ask for. -/
def Criterion.queries (c : Criterion) : List Select := c.nodes.filterMap fun n => n.test.query?

/-- The other select stands in a where clause of this one. -/
def Select.Encloses (s query : Select) : Prop :=
  ∃ b ∈ s.blocks, ∃ c ∈ b.criteria, query ∈ c.queries

/-- The select comes from a run of calls, and so do those inside of the criteria that are given. -/
inductive Select.Buildable : Select → Prop
  | mk {calls : List SelectCall} {stage : SelectStage} {s : Select}
    (run : SelectStage.unopened.run? calls = some stage) (built : stage.build? = some (.ok s))
    (inside : ∀ c ∈ calls.filterMap criterion?, ∀ query ∈ c.queries, query.Buildable) :
    s.Buildable

theorem SelectDraft.Written.whole {d : SelectDraft} {sorts : List SortSpec}
    {calls : List SelectCall} (h : d.Written sorts calls) :
    List.Forall₂ Block.WrittenBy d.blocks (SelectCall.chapters calls) := by
  obtain ⟨earlier, own, splits, finished, block⟩ := h.chapters
  have all := splits []
  rw [List.append_nil, SelectCall.chapters, List.modifyHead_cons, List.append_nil] at all
  rw [all]
  exact List.rel_append finished (.cons block .nil)

/-- What each block has from its own chapter, all blocks have from all calls. -/
theorem flatMap_of_written {β : Type} {f : SelectCall → Option β} {g : Block → List β}
    (silent : ∀ kind, f (.union kind) = none)
    (each : ∀ b own, b.WrittenBy own → g b = own.filterMap f) {bs : List Block}
    {calls : List SelectCall} (h : List.Forall₂ Block.WrittenBy bs (chapters calls)) :
    bs.flatMap g = calls.filterMap f := by
  rw [← flatMap_chapters calls silent]
  generalize chapters calls = chs at h
  induction h with
  | nil => rfl
  | cons block _ ih => rw [List.flatMap_cons, List.flatMap_cons, each _ _ block, ih]

/-- The empty lists of the blocks are those that were given. -/
theorem exists_empty_iff {bs : List Block} {calls : List SelectCall}
    (h : List.Forall₂ Block.WrittenBy bs (chapters calls)) :
    (∃ b ∈ bs, b.items = []) ↔ ∃ distinct, .select [] distinct ∈ calls := by
  have lists : bs.flatMap (fun b => [(b.items, b.distinct)]) = calls.filterMap list? :=
    flatMap_of_written (fun _ => rfl) (fun b own block => block.list.symm) h
  have given : ∀ distinct, ([], distinct) ∈ calls.filterMap list? ↔
      SelectCall.select [] distinct ∈ calls := by
    intro distinct
    rw [List.mem_filterMap]
    refine ⟨?_, fun mem => ⟨_, mem, rfl⟩⟩
    rintro ⟨c, mem, found⟩
    cases c <;> simp [list?] at found
    rwa [found.1, found.2] at mem
  constructor
  · rintro ⟨b, mem, empty⟩
    refine ⟨b.distinct, (given _).mp ?_⟩
    rw [← lists, ← empty]
    exact List.mem_flatMap.mpr ⟨b, mem, List.mem_singleton_self _⟩
  · rintro ⟨distinct, mem⟩
    have found := (given _).mpr mem
    rw [← lists] at found
    obtain ⟨b, inside, same⟩ := List.mem_flatMap.mp found
    rw [List.mem_singleton, Prod.mk.injEq] at same
    exact ⟨b, inside, same.1.symm⟩

theorem SelectEnding.Written.build {e : SelectEnding} {calls : List SelectCall}
    (h : e.Written calls) (paging : Option Paging) :
    (e.build paging = .error (.missing .selectList) ↔ ∃ distinct, .select [] distinct ∈ calls) ∧
      ((¬ ∃ distinct, .select [] distinct ∈ calls) →
        ∃ s, e.build paging = .ok s ∧ s.WellFormed ∧ s.WrittenBy calls) := by
  obtain ⟨d, same, written⟩ := h
  have whole := written.whole
  have refused : (d.blocks.any fun b => b.items.isEmpty) = true ↔ ∃ b ∈ d.blocks, b.items = [] := by
    simp only [List.any_eq_true, List.isEmpty_iff]
  rw [← exists_empty_iff whole]
  unfold SelectEnding.build
  rw [same]
  by_cases empty : ∃ b ∈ d.blocks, b.items = []
  · rw [if_pos (refused.mpr empty)]
    exact ⟨iff_of_true rfl empty, fun full => absurd empty full⟩
  · rw [if_neg (mt refused.mp empty)]
    refine ⟨iff_of_false (by simp) empty, fun _ => ⟨_, rfl, ⟨?_, ⟨_, written.unions⟩, ?_, ?_⟩, ?_⟩⟩
    · exact List.append_ne_nil_of_right_ne_nil _ (List.cons_ne_nil _ _)
    · exact fun b mem none => empty ⟨b, mem, none⟩
    · intro b mem j joined
      have conjoined := written.joins b mem j joined
      exact ⟨conjoined, conjoined.onOnce⟩
    · exact ⟨whole, written.unions, written.sorts⟩

namespace SelectStage

variable {calls : List SelectCall} {stage : SelectStage}

theorem build_of_run {result : Except StatementError Select}
    (run : unopened.run? calls = some stage) (built : stage.build? = some result) :
    (result = .error (.missing .selectList) ↔ ∃ distinct, .select [] distinct ∈ calls) ∧
      ((¬ ∃ distinct, .select [] distinct ∈ calls) →
        ∃ s, result = .ok s ∧ s.WellFormed ∧ s.WrittenBy calls) := by
  have start : unopened.After [] := rfl
  obtain ⟨e, written, paging, rfl⟩ := (start.run run).build built
  exact written.build paging

theorem written_of_run {s : Select} (run : unopened.run? calls = some stage)
    (built : stage.build? = some (.ok s)) : s.WellFormed ∧ s.WrittenBy calls := by
  obtain ⟨refused, taken⟩ := build_of_run run built
  have full : ¬ ∃ distinct, .select [] distinct ∈ calls := by
    rw [← refused]
    simp
  obtain ⟨_, same, both⟩ := taken full
  cases same
  exact both

end SelectStage

/-- A select that stands in a where clause was given with a criterion. -/
theorem Select.Buildable.enclosed {s query : Select} (h : s.Buildable) (inner : s.Encloses query) :
    query.Buildable := by
  obtain ⟨run, built, inside⟩ := h
  obtain ⟨b, mem, c, given, asked⟩ := inner
  have blocks := (SelectStage.written_of_run run built).2.blocks
  have criteria := flatMap_of_written (fun _ => rfl) (fun b own block => block.criteria) blocks
  refine inside c ?_ query asked
  rw [← criteria]
  exact List.mem_flatMap.mpr ⟨b, mem, given⟩

namespace SelectStage

/-- Building after a run of calls fails exactly if one of the select lists is empty. Otherwise the
select is well formed, and each of its blocks is what was written between two unions. All this holds
of the selects inside of its criteria as well, at any depth. -/
theorem written_selects :
    (∀ calls stage result, unopened.run? calls = some stage → stage.build? = some result →
      (result = .error (.missing .selectList) ↔ ∃ distinct, .select [] distinct ∈ calls) ∧
      ((¬ ∃ distinct, .select [] distinct ∈ calls) →
        ∃ s, result = .ok s ∧ s.WellFormed ∧ s.WrittenBy calls)) ∧
    ∀ s : Select, s.Buildable → ∀ query, Relation.ReflTransGen Select.Encloses s query →
      query.WellFormed ∧ ∃ calls stage, unopened.run? calls = some stage ∧
        stage.build? = some (.ok query) ∧ query.WrittenBy calls := by
  refine ⟨fun calls stage result run built => build_of_run run built, ?_⟩
  intro s h query chain
  -- along the chain, each select was given with a criterion of the one around it
  have buildable : query.Buildable := by
    induction chain with
    | refl => exact h
    | tail _ inner ih => exact ih.enclosed inner
  obtain ⟨run, built, -⟩ := buildable
  obtain ⟨formed, written⟩ := written_of_run run built
  exact ⟨formed, _, _, run, built, written⟩

def homeItem : SelectItem := ⟨.column ⟨⟨0, "person"⟩, "home", .integer, none, none⟩, none⟩

/-- The homes of persons. -/
def homeSelect : Select := ⟨[⟨none, false, [homeItem], ⟨0, "person"⟩, none, [], [], []⟩], [], none⟩

/-- Two blocks, the first with a join, a where clause and a grouping, and a page of both. -/
def homeCalls : List SelectCall :=
  let column (name : String) : Column := ⟨⟨1, "town"⟩, name, .integer, none, none⟩
  [.select [homeItem] false, .source ⟨0, "person"⟩ (some "p"), .join .left ⟨1, "town"⟩ none,
    .on (column "id") (column "id"), .andOn (column "area") (column "area"),
    .meet (.existing homeSelect), .meetAlso .or (.ofCondition (column "id") .isNull),
    .groupBy [homeItem], .union .unionAll, .select [homeItem] true, .source ⟨0, "person"⟩ none,
    .orderBy [⟨"home", true⟩, ⟨"id", false⟩], .offset 5, .fetchFirst 10, .rowsOnly]

theorem homeCalls_written : ∃ s : Select, s.Buildable ∧ s.WellFormed ∧ s.WrittenBy homeCalls ∧
    s.Encloses homeSelect ∧ homeSelect.WellFormed := by
  have home : homeSelect.Buildable :=
    @Select.Buildable.mk [.select [homeItem] false, .source ⟨0, "person"⟩ none] _ _ rfl rfl
      (by simp [criterion?])
  have full : ¬ ∃ distinct, SelectCall.select [] distinct ∈ homeCalls := by
    simp [homeCalls]
  obtain ⟨s, built, formed, written⟩ := (written_selects.1 homeCalls _ _ rfl rfl).2 full
  cases built
  have asked : (homeCalls.filterMap criterion?).flatMap Criterion.queries = [homeSelect] := by
    rfl
  have inside : ∀ c ∈ homeCalls.filterMap criterion?, ∀ query ∈ c.queries, query.Buildable := by
    intro c given query mem
    have found : query ∈ [homeSelect] := asked ▸ List.mem_flatMap.mpr ⟨c, given, mem⟩
    rw [List.mem_singleton.mp found]
    exact home
  have buildable := @Select.Buildable.mk homeCalls _ _ rfl rfl inside
  have existing : homeSelect ∈ (Criterion.existing homeSelect).queries :=
    List.mem_singleton_self homeSelect
  suffices inner : Select.Encloses _ homeSelect from
    ⟨_, buildable, formed, written, inner, (written_selects.2 _ buildable _ (.single inner)).1⟩
  exact ⟨_, .head _, _, .head _, existing⟩

end SelectStage

end BoundSql
