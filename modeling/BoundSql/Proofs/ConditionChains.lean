import BoundSql.Proofs.ConditionSteps
import BoundSql.Proofs.Liveness

/-!
# Chains of steps

A `Chain` is a run of steps in which a map may change the type of the values. `Chain.trace` lists
what it evaluates: what each step evaluates at the condition that the steps before it leave.
-/

namespace BoundSql

/-- Steps one behind the other. -/
inductive Chain : Type → Type → Type 1 where
  | done {α : Type} : Chain α α
  | step {α β : Type} (s : Modifier α) (rest : Chain α β) : Chain α β
  /-- A map to values of another type. -/
  | mapTo {α β γ : Type} (f : α → β) (rest : Chain β γ) : Chain α γ

/-- An evaluation at values of some type. -/
abbrev Evaluation := (α : Type) × Probe α

namespace Chain

variable {σ α β γ : Type}

/-- The condition behind the chain, with an observer told of each evaluation before it happens. -/
def run {m : Type → Type} [Monad m] (observe : Evaluation → m Unit) {α β : Type} :
    Chain α β → Condition σ α → m (Condition σ β)
  | .done, c => return c
  | .step s rest, c => do
    let next ← s.run (fun p => observe ⟨_, p⟩) c
    rest.run observe next
  | .mapTo f rest, c => do
    let next ← c.mapM fun v => do observe ⟨_, .mapped v⟩; return f v
    rest.run observe next

/-- The condition behind the chain. -/
def apply {α β : Type} : Chain α β → Condition σ α → Condition σ β
  | .done, c => c
  | .step s rest, c => rest.apply (s.apply c)
  | .mapTo f rest, c => rest.apply (c.map f)

/-- What the chain evaluates, in this order. -/
def trace {α β : Type} : Chain α β → Condition σ α → List Evaluation
  | .done, _ => []
  | .step s rest, c => (s.probes c).map (⟨_, ·⟩) ++ rest.trace (s.apply c)
  | .mapTo f rest, c => c.values.map (⟨_, .mapped ·⟩) ++ rest.trace (c.map f)

/-- A chain with another one behind it. -/
def append {α β γ : Type} : Chain α β → Chain β γ → Chain α γ
  | .done, more => more
  | .step s rest, more => .step s (rest.append more)
  | .mapTo f rest, more => .mapTo f (rest.append more)

theorem apply_append {α β : Type} : ∀ (first : Chain α β) (more : Chain β γ) (c : Condition σ α),
    (first.append more).apply c = more.apply (first.apply c)
  | .done, _, _ => rfl
  | .step s rest, more, c => apply_append rest more (s.apply c)
  | .mapTo f rest, more, c => apply_append rest more (c.map f)

theorem trace_append {α β : Type} : ∀ (first : Chain α β) (more : Chain β γ) (c : Condition σ α),
    (first.append more).trace c = first.trace c ++ more.trace (first.apply c)
  | .done, _, _ => rfl
  | .step s rest, more, c => by
    rw [append, trace, trace_append rest more, trace, apply, List.append_assoc]
  | .mapTo f rest, more, c => by
    rw [append, trace, trace_append rest more, trace, apply, List.append_assoc]

/-- A chain tells its observer of its evaluations, one by one, and gives the condition behind it. -/
theorem run_eq {m : Type → Type} [Monad m] [LawfulMonad m] (observe : Evaluation → m Unit)
    {α β : Type} : ∀ (chain : Chain α β) (c : Condition σ α),
      chain.run observe c = do
        forM (chain.trace c) observe
        return chain.apply c
  | .done, c => by simp [run, trace, apply]
  | .step s rest, c => by
    rw [run, Modifier.run_eq, trace, apply]
    simp only [List.forM_append, List.forM_map, bind_assoc, pure_bind, run_eq observe rest]
  | .mapTo f rest, c => by
    rw [run, Condition.mapM_eq c fun v => observe ⟨_, .mapped v⟩, trace, apply]
    simp only [List.forM_append, List.forM_map, bind_assoc, pure_bind, run_eq observe rest]

theorem operator_apply {α β : Type} : ∀ (chain : Chain α β) (c : Condition σ α),
    (chain.apply c).operator = c.operator
  | .done, _ => rfl
  | .step s rest, c => (operator_apply rest (s.apply c)).trans (s.operator_apply c)
  | .mapTo f rest, c => operator_apply rest (c.map f)

theorem upperColumn_apply {α β : Type} : ∀ (chain : Chain α β) (c : Condition σ α),
    (chain.apply c).upperColumn = c.upperColumn
  | .done, _ => rfl
  | .step s rest, c => (upperColumn_apply rest (s.apply c)).trans (s.upperColumn_apply c)
  | .mapTo f rest, c => upperColumn_apply rest (c.map f)

/-- Behind a closed gate a chain evaluates nothing, and the gate stays closed. -/
theorem of_not_isOpen {α β : Type} : ∀ (chain : Chain α β) {c : Condition σ α},
    c.isOpen = false → chain.trace c = [] ∧ (chain.apply c).isOpen = false
  | .done, c, closed => ⟨rfl, closed⟩
  | .step s rest, c, closed => by
    have behind := of_not_isOpen rest (s.isOpen_apply_of_not_isOpen closed)
    rw [trace, s.probes_of_not_isOpen closed]
    exact behind
  | .mapTo f rest, c, closed => by
    have behind := of_not_isOpen rest (c := c.map f) (by rw [Condition.isOpen_map, closed])
    rw [trace, Condition.values, Operand.values_eq_nil_of_not_isOpen closed]
    exact behind

end Chain

namespace Rendering

/-- A test that is not live renders nothing and takes no number. -/
theorem renderTest_of_dead (config : Config) (scope : Scope) {t : Test} (dead : t.isLive = false)
    (start : Progress) : ∃ stop, (renderTest config scope t).run start = .ok (none, stop) ∧
      stop.next = start.next := by
  have outcome := @renderTest_renders config scope t start.next start.events
  have template : t.template scope = none := by
    rw [← Option.isNone_iff_eq_none, ← Option.isSome_eq_false_iff, Test.isSome_template, dead]
  rw [template] at outcome
  rcases run : (renderTest config scope t).run start with e | ⟨f, stop⟩ <;> rw [run] at outcome
  · exact absurd List.nodup_nil outcome
  · obtain ⟨next, nothing⟩ := outcome
    cases nothing
    exact ⟨stop, rfl, next⟩

end Rendering

namespace Chain

open Rendering

variable {α β : Type}

/-- A chain evaluates what its trace lists, in this order and nothing else, and keeps the operator
and the mark of the column. Once the gate is closed, nothing that follows evaluates anything or
opens it again, and the condition renders to nothing and takes no number, whatever its values are
turned into. -/
theorem closed_gate_absorbs (first : Chain α β) (c : Condition Select α) :
    (∀ (m : Type → Type) [Monad m] [LawfulMonad m] (observe : Evaluation → m Unit),
      first.run observe c = do
        forM (first.trace c) observe
        return first.apply c) ∧
    (first.apply c).operator = c.operator ∧ (first.apply c).upperColumn = c.upperColumn ∧
    ((first.apply c).isOpen = false → ∀ (γ : Type) (more : Chain β γ),
      (first.append more).trace c = first.trace c ∧
      ((first.append more).apply c).isOpen = false ∧
      ∀ (toValue : γ → Value) (config : Config) (scope : Scope) (column : Column)
        (start : Progress), ∃ stop,
          (renderTest config scope
              (.column column (((first.append more).apply c).map toValue))).run start =
            .ok (none, stop) ∧ stop.next = start.next) := by
  refine ⟨fun m _ _ observe => run_eq observe first c, operator_apply first c,
    upperColumn_apply first c, ?_⟩
  intro closed γ more
  obtain ⟨nothing, stays⟩ := of_not_isOpen more closed
  rw [← apply_append] at stays
  refine ⟨?_, stays, ?_⟩
  · rw [trace_append, nothing, List.append_nil]
  · intro toValue config scope column start
    refine renderTest_of_dead config scope ?_ start
    rw [Test.isLive, Condition.isOpen_map, stays]

/-- Scores above five, asked whether they are even, behind a gate that is closed at last. -/
def evenScores : Chain Nat Bool :=
  .step (.filter fun n => decide (5 < n))
    (.mapTo (fun n => n % 2 == 0) (.step (.filter id) (.step (.when false) .done)))

/-- An observer that notes the kind of each evaluation. -/
def noteKind (e : Evaluation) : StateM (List String) Unit :=
  modify fun notes => notes ++ [match e.2 with
    | .tested _ => "tested"
    | .testedPair _ _ => "tested pair"
    | .asked => "asked"
    | .mapped _ => "mapped"]

theorem evenScores_absorbs :
    let scores : Condition Select Nat := .list .isIn [3, 8, 12]
    let more : Chain Bool Bool := .step (.map not) (.step (.when true) .done)
    ((evenScores.run noteKind scores).run []).2 =
        ["tested", "tested", "tested", "mapped", "mapped", "tested", "tested", "asked"] ∧
      (evenScores.apply scores).isOpen = false ∧
      (evenScores.append more).trace scores = evenScores.trace scores ∧
      ∃ stop, (renderTest {} .empty (.column ⟨⟨0, "game"⟩, "score", .integer, none, none⟩
        (((evenScores.append more).apply scores).map Value.bool))).run {} = .ok (none, stop) := by
  intro scores more
  obtain ⟨observed, -, -, absorbed⟩ := closed_gate_absorbs evenScores scores
  have closed : (evenScores.apply scores).isOpen = false := rfl
  obtain ⟨same, -, renders⟩ := absorbed closed Bool more
  refine ⟨?_, closed, same, ?_⟩
  · rw [observed (StateM (List String)) noteKind]
    rfl
  · obtain ⟨stop, run, -⟩ := renders Value.bool {} .empty _ {}
    exact ⟨stop, run⟩

end Chain

end BoundSql
