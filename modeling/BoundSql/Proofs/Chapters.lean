import BoundSql.Draft.Stages
import BoundSql.Rendering.Query
import Mathlib.Data.List.Forall2

/-!
# The chapters of a select

A union among the calls that write a select starts the next chapter. The blocks of a select are
those of its chapters, in their order: each has the list, the table, the joins, the criteria and the
grouping that were given in its own chapter, and the union that stands before the chapter
(`SelectDraft.Written`). A call that belongs to the block in hand changes this block alone
(`SelectDraft.Written.append`).
-/

namespace BoundSql

/-! ## The chapters of calls -/

namespace SelectCall

def list? : SelectCall → Option (List SelectItem × Bool)
  | .select items distinct => some (items, distinct)
  | _ => none

def source? : SelectCall → Option (Table × Option String)
  | .source table asName => some (table, asName)
  | _ => none

def criterion? : SelectCall → Option Criterion
  | .meet c => some c
  | .meetAlso connector c => some (c.joined connector)
  | _ => none

def grouping : SelectCall → List Expression
  | .groupBy items => items.map SelectItem.expression
  | _ => []

def union? : SelectCall → Option UnionKind
  | .union kind => some kind
  | _ => none

def sorting : SelectCall → List SortSpec
  | .orderBy sorts => sorts
  | _ => []

/-- The calls between the unions. -/
def chapters : List SelectCall → List (List SelectCall)
  | [] => [[]]
  | .union _ :: calls => [] :: chapters calls
  | c :: calls => (chapters calls).modifyHead (c :: ·)

/-- What a join that stands before the calls joins on. -/
def conditions : List SelectCall → List JoinCriterion
  | [] => []
  | .join _ _ _ :: _ => []
  | .on left right :: calls => ⟨none, left, right⟩ :: conditions calls
  | .andOn left right :: calls => ⟨some .and, left, right⟩ :: conditions calls
  | _ :: calls => conditions calls

def joins : List SelectCall → List Join
  | [] => []
  | .join kind table asName :: calls => ⟨kind, table, asName, conditions calls⟩ :: joins calls
  | _ :: calls => joins calls

variable (calls : List SelectCall)

theorem chapters_cons {c : SelectCall} (inside : c.union? = none) :
    chapters (c :: calls) = (chapters calls).modifyHead (c :: ·) := by
  cases c <;> first | rfl | simp [union?] at inside

theorem chapters_append {own : List SelectCall} (inside : ∀ c ∈ own, c.union? = none) :
    chapters (own ++ calls) = (chapters calls).modifyHead (own ++ ·) := by
  induction own with
  | nil =>
    rw [List.nil_append]
    cases chapters calls <;> rfl
  | cons c own ih =>
    rw [List.forall_mem_cons] at inside
    rw [List.cons_append, chapters_cons _ inside.1, ih inside.2, List.modifyHead_modifyHead]
    rfl

theorem chapters_ne_nil : chapters calls ≠ [] := by
  induction calls with
  | nil => exact List.cons_ne_nil _ _
  | cons c calls ih =>
    rcases kind : c.union? with _ | k
    · rw [chapters_cons _ kind, Ne, List.modifyHead_eq_nil_iff]
      exact ih
    · cases c <;> simp [union?] at kind
      exact List.cons_ne_nil _ _

/-- What is given by calls other than unions is given in their chapters. -/
theorem flatMap_chapters {β : Type} {f : SelectCall → Option β}
    (silent : ∀ kind, f (.union kind) = none) :
    (chapters calls).flatMap (List.filterMap f) = calls.filterMap f := by
  induction calls with
  | nil => rfl
  | cons c calls ih =>
    rcases kind : c.union? with _ | k
    · obtain ⟨own, rest, found⟩ := List.exists_cons_of_ne_nil (chapters_ne_nil calls)
      rw [found, List.flatMap_cons] at ih
      rw [chapters_cons _ kind, found, List.modifyHead_cons, List.flatMap_cons,
        List.filterMap_cons, List.filterMap_cons, ← ih]
      cases f c <;> rfl
    · cases c <;> simp [union?] at kind
      rw [List.filterMap_cons, silent]
      exact ih

theorem conditions_append_join (kind : JoinKind) (table : Table) (asName : Option String)
    (more : List SelectCall) :
    conditions (calls ++ .join kind table asName :: more) = conditions calls := by
  induction calls with
  | nil => rfl
  | cons c calls ih => cases c <;> simp [conditions, ih]

theorem joins_append_join (kind : JoinKind) (table : Table) (asName : Option String)
    (more : List SelectCall) :
    joins (calls ++ .join kind table asName :: more) =
      joins calls ++ ⟨kind, table, asName, conditions more⟩ :: joins more := by
  induction calls with
  | nil => rfl
  | cons c calls ih => cases c <;> simp [joins, ih, conditions_append_join]

theorem joins_append_of_ne {c : SelectCall} (other : joins [c] = [])
    (silent : conditions [c] = []) : joins (calls ++ [c]) = joins calls := by
  have same : ∀ calls, conditions (calls ++ [c]) = conditions calls := by
    intro calls
    induction calls with
    | nil => exact silent
    | cons d calls ih => cases d <;> simp [conditions, ih]
  induction calls with
  | nil => exact other
  | cons d calls ih => cases d <;> simp [joins, ih, same]

theorem conditions_append_andOn (left right : Column) :
    conditions (calls ++ [.andOn left right]) =
      conditions calls ++ if (joins calls).isEmpty then [⟨some .and, left, right⟩] else [] := by
  induction calls with
  | nil => rfl
  | cons c calls ih => cases c <;> simp [conditions, joins, ih]

theorem joins_append_andOn (left right : Column) :
    joins (calls ++ [.andOn left right]) = SelectDraft.refineLast left right (joins calls) := by
  induction calls with
  | nil => rfl
  | cons c calls ih =>
    cases c with
    | join kind table asName =>
      -- the equality belongs to this join unless another join comes behind it
      simp only [List.cons_append, joins, ih, conditions_append_andOn]
      cases joins calls <;> simp [SelectDraft.refineLast]
    | _ => simpa only [List.cons_append, joins] using ih

end SelectCall

open SelectCall

/-! ## Blocks and the calls of their chapter -/

/-- What a block has from the calls of its chapter. -/
structure Block.WrittenBy (b : Block) (own : List SelectCall) : Prop where
  list : own.filterMap list? = [(b.items, b.distinct)]
  source : own.filterMap source? = [(b.table, b.asName)]
  joins : b.joins = SelectCall.joins own
  criteria : b.criteria = own.filterMap criterion?
  groupBy : b.groupBy = own.flatMap grouping

/-- More calls for a block of which a list and a table are given. -/
theorem Block.WrittenBy.append {b b' : Block} {own : List SelectCall} (h : b.WrittenBy own)
    (cs : List SelectCall) (silent : cs.filterMap list? = [] ∧ cs.filterMap source? = [])
    (list : b'.items = b.items ∧ b'.distinct = b.distinct)
    (source : b'.table = b.table ∧ b'.asName = b.asName)
    (joins : b'.joins = SelectCall.joins (own ++ cs))
    (criteria : b'.criteria = b.criteria ++ cs.filterMap criterion?)
    (groupBy : b'.groupBy = b.groupBy ++ cs.flatMap grouping) : b'.WrittenBy (own ++ cs) := by
  refine ⟨?_, ?_, joins, ?_, ?_⟩
  · rw [List.filterMap_append, silent.1, h.list, list.1, list.2, List.append_nil]
  · rw [List.filterMap_append, silent.2, h.source, source.1, source.2, List.append_nil]
  · rw [criteria, h.criteria, List.filterMap_append]
  · rw [groupBy, h.groupBy, List.flatMap_append]

/-- More calls that say what a block joins. -/
theorem Block.WrittenBy.append_joins {b b' : Block} {own : List SelectCall} (h : b.WrittenBy own)
    (cs : List SelectCall) (silent : cs.filterMap list? = [] ∧ cs.filterMap source? = [])
    (outside : cs.filterMap criterion? = [] ∧ cs.flatMap grouping = [])
    (same : b' = { b with joins := SelectCall.joins (own ++ cs) }) : b'.WrittenBy (own ++ cs) := by
  subst same
  refine h.append cs silent ⟨rfl, rfl⟩ ⟨rfl, rfl⟩ rfl ?_ ?_
  · rw [outside.1, List.append_nil]
  · rw [outside.2, List.append_nil]

/-- The join says what it joins on: first one equality, and all others joined to it by `and`. -/
def Join.Conjoined (j : Join) : Prop :=
  ∃ first rest, j.criteria = first :: rest ∧ first.connector = none ∧
    ∀ c ∈ rest, c.connector = some .and

/-- The text of the join has one `on`, and an `and` before each further equality. -/
def Join.OnOnce (j : Join) : Prop :=
  ∃ first rest, j.criteria = first :: rest ∧ ∀ scope, j.render scope =
    j.kind.keyword ++ " " ++ tableText j.table j.asName ++
      (" on " ++ first.left.qualified scope ++ " = " ++ first.right.qualified scope) ++
      String.join (rest.map fun c =>
        " and " ++ c.left.qualified scope ++ " = " ++ c.right.qualified scope)

theorem Join.Conjoined.onOnce {j : Join} (h : j.Conjoined) : j.OnOnce := by
  obtain ⟨first, rest, criteria, bare, joined⟩ := h
  refine ⟨first, rest, criteria, fun scope => ?_⟩
  have others : rest.map (Join.criterionText scope) = rest.map fun c =>
      " and " ++ c.left.qualified scope ++ " = " ++ c.right.qualified scope :=
    List.map_congr_left fun c mem => by simp [Join.criterionText, joined c mem, Connector.keyword]
  rw [Join.render, criteria, List.map_cons, String.join_cons, others]
  simp [Join.criterionText, bare, String.append_assoc]

theorem conjoined_refineLast (left right : Column) : ∀ js : List Join,
    (∀ j ∈ js, j.Conjoined) → ∀ j ∈ SelectDraft.refineLast left right js, j.Conjoined
  | [], _ => fun j mem => absurd mem List.not_mem_nil
  | [j], all => by
    obtain ⟨first, rest, criteria, bare, joined⟩ := all j (List.mem_singleton_self j)
    rw [SelectDraft.refineLast, List.forall_mem_singleton]
    refine ⟨first, rest ++ [⟨some .and, left, right⟩], ?_, bare, ?_⟩
    · simp [criteria]
    · simpa [or_imp, forall_and] using joined
  | j :: next :: js, all => by
    rw [SelectDraft.refineLast, List.forall_mem_cons]
    · have behind := conjoined_refineLast left right (next :: js)
      exact ⟨all j List.mem_cons_self, behind fun j mem => all j (List.mem_cons_of_mem _ mem)⟩
    · exact List.cons_ne_nil _ _

/-! ## Drafts and the calls behind them -/

namespace SelectDraft

def blocks (d : SelectDraft) : List Block := d.finished ++ [d.block]

/-- The calls are those of earlier chapters and of the one in hand, whatever comes behind. -/
def Splits (calls : List SelectCall) (earlier : List (List SelectCall)) (own : List SelectCall) :
    Prop :=
  ∀ more, chapters (calls ++ more) = earlier ++ (chapters more).modifyHead (own ++ ·)

theorem Splits.append {calls own : List SelectCall} {earlier : List (List SelectCall)}
    (h : Splits calls earlier own) (cs : List SelectCall) (inside : ∀ c ∈ cs, c.union? = none) :
    Splits (calls ++ cs) earlier (own ++ cs) := by
  intro more
  rw [List.append_assoc, h, chapters_append more inside, List.modifyHead_modifyHead]
  simp [Function.comp_def]

theorem Splits.union {calls own : List SelectCall} {earlier : List (List SelectCall)}
    (h : Splits calls earlier own) (kind : UnionKind) :
    Splits (calls ++ [.union kind]) (earlier ++ [own]) [] := by
  intro more
  have same : (SelectCall.chapters more).modifyHead ([] ++ ·) = SelectCall.chapters more := by
    cases SelectCall.chapters more <;> rfl
  rw [List.append_assoc, List.singleton_append, h, chapters, same]
  simp

/-- The blocks of the draft are those of the chapters of the calls, with the unions between these,
and the given order is that of the calls. -/
structure Written (d : SelectDraft) (sorts : List SortSpec) (calls : List SelectCall) : Prop where
  chapters : ∃ earlier own, Splits calls earlier own ∧
    List.Forall₂ Block.WrittenBy d.finished earlier ∧ d.block.WrittenBy own
  unions : d.blocks.map Block.union = none :: (calls.filterMap union?).map some
  joins : ∀ b ∈ d.blocks, ∀ j ∈ b.joins, j.Conjoined
  sorts : sorts = calls.flatMap sorting

namespace Written

variable {d : SelectDraft} {sorts : List SortSpec} {calls : List SelectCall}

/-- Calls that belong to the block in hand change this block alone. -/
theorem append {d' : SelectDraft} (h : d.Written sorts calls) (cs : List SelectCall)
    (inside : ∀ c ∈ cs, c.union? = none) (finished : d'.finished = d.finished)
    (block : ∀ own, d.block.WrittenBy own → d'.block.WrittenBy (own ++ cs))
    (union : d'.block.union = d.block.union)
    (joins : (∀ j ∈ d.block.joins, j.Conjoined) → ∀ j ∈ d'.block.joins, j.Conjoined) :
    d'.Written (sorts ++ cs.flatMap sorting) (calls ++ cs) := by
  obtain ⟨earlier, own, splits, before, mine⟩ := h.chapters
  have all := h.joins
  have none : cs.filterMap union? = [] := List.filterMap_eq_nil_iff.mpr inside
  rw [blocks, List.forall_mem_append, List.forall_mem_singleton] at all
  refine ⟨⟨earlier, own ++ cs, splits.append cs inside, ?_, block own mine⟩, ?_, ?_, ?_⟩
  · rw [finished]
    exact before
  · have unions := h.unions
    simp only [blocks, List.map_append, List.map_cons, List.map_nil] at unions ⊢
    rw [union, finished, unions, List.filterMap_append, none, List.append_nil]
  · rw [blocks, finished, List.forall_mem_append, List.forall_mem_singleton]
    exact ⟨all.1, joins all.2⟩
  · rw [h.sorts, List.flatMap_append]

theorem select (items : List SelectItem) (table : Table) (asName : Option String)
    (distinct : Bool) :
    (SelectDraft.select items table asName distinct).Written []
      [.select items distinct, .source table asName] := by
  refine ⟨⟨[], [.select items distinct, .source table asName], ?_, .nil, ?_⟩, rfl, ?_, rfl⟩
  · exact fun more => chapters_append more (by simp [union?])
  · exact ⟨rfl, rfl, rfl, rfl, rfl⟩
  · simp [blocks, SelectDraft.select, blockFrom]

/-- The block in hand is finished, and the next one has its list and its table. -/
theorem union (h : d.Written [] calls) (kind : UnionKind) (items : List SelectItem) (table : Table)
    (asName : Option String) (distinct : Bool) :
    (d.union kind items table asName distinct).Written []
      (calls ++ [.union kind, .select items distinct, .source table asName]) := by
  obtain ⟨earlier, mine, splits, finished, block⟩ := h.chapters
  have next := (splits.union kind).append [.select items distinct, .source table asName]
    (by simp [union?])
  rw [List.append_assoc] at next
  refine ⟨⟨_, _, next, List.rel_append finished (.cons block .nil), ?_⟩, ?_, ?_, ?_⟩
  · exact ⟨rfl, rfl, rfl, rfl, rfl⟩
  · have unions := h.unions
    rw [blocks, SelectDraft.union, List.map_append, ← blocks, unions, List.filterMap_append,
      List.map_append]
    rfl
  · have all := h.joins
    rw [blocks] at all
    rw [blocks, List.forall_mem_append, List.forall_mem_singleton]
    exact ⟨all, fun j mem => absurd mem List.not_mem_nil⟩
  · simp [← h.sorts, sorting]

end Written

/-- The block in hand has neither a where clause nor a grouping. -/
def Bare (d : SelectDraft) (calls : List SelectCall) : Prop :=
  d.Written [] calls ∧ d.block.criteria = [] ∧ d.block.groupBy = []

end SelectDraft

def SelectEnding.Written (e : SelectEnding) (calls : List SelectCall) : Prop :=
  ∃ d : SelectDraft, e.blocks = d.blocks ∧ d.Written e.sorts calls

/-- The calls that are taken once no block is in hand. -/
def SelectCall.ends : SelectCall → Bool
  | .orderBy _ => true
  | .limit _ => true
  | .offset _ => true
  | .fetchFirst _ => true
  | .rowsOnly => true
  | _ => false

theorem Block.WrittenBy.snoc_of_ends {b : Block} {own : List SelectCall} (h : b.WrittenBy own)
    {c : SelectCall} (ends : c.ends = true) : b.WrittenBy (own ++ [c]) := by
  cases c <;> simp [SelectCall.ends] at ends
  all_goals
    refine h.append_joins _ ⟨rfl, rfl⟩ ⟨rfl, rfl⟩ ?_
    rw [joins_append_of_ne own rfl rfl, ← h.joins]
    cases b
    rfl

theorem SelectEnding.Written.snoc {e : SelectEnding} {calls : List SelectCall} (h : e.Written calls)
    {c : SelectCall} (ends : c.ends = true) :
    SelectEnding.Written ⟨e.blocks, e.sorts ++ c.sorting⟩ (calls ++ [c]) := by
  obtain ⟨d, same, written⟩ := h
  have inside : ∀ d ∈ [c], d.union? = none := by
    cases c <;> simp [SelectCall.ends] at ends <;> simp [union?]
  have next := written.append [c] inside rfl (fun _ own => own.snoc_of_ends ends) rfl id
  rw [List.flatMap_singleton] at next
  exact ⟨d, same, next⟩

/-- Paging changes neither the blocks nor their order. -/
theorem SelectEnding.Written.paged {e : SelectEnding} {calls : List SelectCall}
    (h : e.Written calls) {c : SelectCall} (ends : c.ends = true) (silent : c.sorting = []) :
    e.Written (calls ++ [c]) := by
  have next := h.snoc ends
  rwa [silent, List.append_nil] at next

end BoundSql
