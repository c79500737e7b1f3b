import BoundSql.Proofs.ConditionSteps
import BoundSql.Rendering.Query

/-!
# Laws of the steps

Maps fuse with maps and tests with tests, and a test behind a map is a test before it
(`Condition.steps_commute`). A pair is closed as a whole where a list loses its elements one by one,
so each law is shown for every shape of operand first. It follows that a step on bound values may be
taken before the values are turned into bound ones as well as after.
-/

namespace BoundSql

variable {σ α β γ : Type}

namespace Operand

/-- The shapes that hold values while the gate is open. -/
def bearsValues : Operand σ α → Bool
  | .single _ => true
  | .pair _ => true
  | .list _ => true
  | _ => false

theorem map_map (f : α → β) (g : β → γ) (o : Operand σ α) :
    (o.map f).map g = o.map (g ∘ f) := by
  cases o <;> simp only [map, Option.map_map, List.map_map, Prod.map_comp_map]

theorem filter_map (f : α → β) (test : β → Bool) (o : Operand σ α) :
    (o.map f).filter test = (o.filter (test ∘ f)).map f := by
  cases o with
  | single value => rw [map, filter, filter, map, Option.filter_map]
  | pair values =>
    rw [map, filter, filter, map, Option.filter_map]
    rfl
  | list values => rw [map, filter, filter, map, List.filter_map]
  | _ => rfl

theorem filterPair_map (f : α → β) (test : β → β → Bool) (o : Operand σ α) :
    (o.map f).filterPair test = (o.filterPair fun a b => test (f a) (f b)).map f := by
  cases o with
  | pair values =>
    rw [map, filterPair, filterPair, map, Option.filter_map]
    rfl
  | _ => rfl

/-- Two tests one behind the other are one test for both. -/
theorem filter_filter (first second : α → Bool) (o : Operand σ α) :
    (o.filter first).filter second = o.filter fun v => first v && second v := by
  cases o with
  | single value => rw [filter, filter, filter, Option.filter_filter]
  | pair values =>
    -- Both bounds are put to the first test before either is put to the second.
    have regroup (a b : α) : ((first a && first b) && (second a && second b)) =
        ((first a && second a) && (first b && second b)) := by
      ac_rfl
    rw [filter, filter, filter, Option.filter_filter]
    simp only [regroup]
  | list values =>
    rw [filter, filter, filter, List.filter_filter]
    simp only [Bool.and_comm]
  | _ => rfl

theorem close_eq_filter {o : Operand σ α} (h : o.bearsValues = true) :
    o.close = o.filter fun _ => false := by
  cases o with
  | single value => cases value <;> rfl
  | pair values => cases values <;> rfl
  | list values => simp [close, filter]
  | _ => cases h

theorem filter_of_not_bearsValues {o : Operand σ α} (h : o.bearsValues = false)
    (test : α → Bool) : o.filter test = o := by
  cases o with
  | single value => cases h
  | pair values => cases h
  | list values => cases h
  | _ => rfl

end Operand

namespace Condition

theorem map_map (f : α → β) (g : β → γ) (c : Condition σ α) :
    (c.map f).map g = c.map (g ∘ f) := by
  rw [map_eq, map_eq, map_eq, Operand.map_map]

theorem filter_map (f : α → β) (test : β → Bool) (c : Condition σ α) :
    (c.map f).filter test = (c.filter (test ∘ f)).map f := by
  rw [map_eq, filter_eq, filter_eq, map_eq, Operand.filter_map]

theorem filterPair_map (f : α → β) (test : β → β → Bool) (c : Condition σ α) :
    (c.map f).filterPair test = (c.filterPair fun a b => test (f a) (f b)).map f := by
  rw [map_eq, filterPair_eq, filterPair_eq, map_eq, Operand.filterPair_map]

theorem filter_filter (first second : α → Bool) (c : Condition σ α) :
    (c.filter first).filter second = c.filter fun v => first v && second v := by
  rw [filter_eq, filter_eq, filter_eq, Operand.filter_filter]

theorem filter_comm (first second : α → Bool) (c : Condition σ α) :
    (c.filter first).filter second = (c.filter second).filter first := by
  simp only [filter_filter, Bool.and_comm]

/-- Closing the gate is the same as refusing every value, where there are values. -/
theorem when_false_eq_filter {c : Condition σ α} (h : c.operand.bearsValues = true) :
    c.when false = c.filter fun _ => false := by
  rw [when_eq, filter_eq]
  cases gate : c.isOpen with
  | false =>
    rw [Operand.filter_of_not_isOpen gate]
    rfl
  | true =>
    rw [← Operand.close_eq_filter h]
    rfl

theorem filter_of_not_bearsValues {c : Condition σ α} (h : c.operand.bearsValues = false)
    (test : α → Bool) : c.filter test = c := by
  rw [filter_eq, Operand.filter_of_not_bearsValues h]

open Rendering in
/-- The laws by which steps may be exchanged. A condition is its operator, its operand with the
values, the mark of its column and its report, so equal conditions render to the same. A test or a
map of bound values gives the same criterion whether it is taken behind the conversion of the values
or, through the conversion, before it. -/
theorem steps_commute (c : Condition Select α) :
    (∀ (f : α → β) (g : β → γ), (c.map f).map g = c.map (g ∘ f)) ∧
    (∀ (f : α → β) (test : β → Bool), (c.map f).filter test = (c.filter (test ∘ f)).map f) ∧
    (∀ (f : α → β) (test : β → β → Bool),
      (c.map f).filterPair test = (c.filterPair fun a b => test (f a) (f b)).map f) ∧
    (∀ first second : α → Bool,
      (c.filter first).filter second = c.filter (fun v => first v && second v) ∧
        (c.filter first).filter second = (c.filter second).filter first) ∧
    (c.operand.bearsValues = true → c.when false = c.filter fun _ => false) ∧
    (c.operand.bearsValues = false → ∀ test, c.filter test = c) ∧
    ∀ (toValue : α → Value) (config : Config) (scope : Scope) (column : Column),
      (∀ test : Value → Bool,
        renderCriterion config scope (.erasing toValue column (c.filter (test ∘ toValue))) =
          renderCriterion config scope (.ofCondition column ((c.map toValue).filter test))) ∧
      (∀ test : Value → Value → Bool,
        renderCriterion config scope (.erasing toValue column
            (c.filterPair fun a b => test (toValue a) (toValue b))) =
          renderCriterion config scope (.ofCondition column ((c.map toValue).filterPair test))) ∧
      ∀ (f : α → β) (toValue' : β → Value) (g : Value → Value),
        (∀ a, toValue' (f a) = g (toValue a)) →
          renderCriterion config scope (.erasing toValue' column (c.map f)) =
            renderCriterion config scope (.ofCondition column ((c.map toValue).map g)) := by
  refine ⟨fun f g => map_map f g c, fun f test => filter_map f test c,
    fun f test => filterPair_map f test c,
    fun first second => ⟨filter_filter first second c, filter_comm first second c⟩,
    when_false_eq_filter, filter_of_not_bearsValues, ?_⟩
  intro toValue config scope column
  refine ⟨?_, ?_, ?_⟩
  · intro test
    rw [Criterion.erasing, filter_map]
  · intro test
    rw [Criterion.erasing, filterPair_map]
  · intro f toValue' g converted
    have same : toValue' ∘ f = g ∘ toValue := funext converted
    rw [Criterion.erasing, map_map, map_map, same]

/-- Answers that are looked for, with a report for the case that there is none. -/
def answers : Condition Select Bool := (list .isIn [true, false, true]).reportingEmptyList "answers"

/-- The other answer, on bound values. -/
def negated : Value → Value
  | .bool b => .bool (!b)
  | v => v

open Rendering in
theorem answers_commute :
    (answers.operand.bearsValues = true ∧ answers.when false = answers.filter fun _ => false) ∧
      ((isNull : Condition Select Bool).operand.bearsValues = false ∧
        (isNull : Condition Select Bool).filter not = isNull) ∧
      (∀ b, Value.bool (!b) = negated (.bool b)) ∧
        ∀ (config : Config) (scope : Scope) (column : Column),
          renderCriterion config scope (.erasing Value.bool column (answers.map not)) =
            renderCriterion config scope
              (.ofCondition column ((answers.map Value.bool).map negated)) := by
  obtain ⟨-, -, -, -, closing, -, renders⟩ := steps_commute (β := Bool) (γ := Bool) answers
  obtain ⟨-, -, -, -, -, untouched, -⟩ :=
    steps_commute (β := Bool) (γ := Bool) (isNull : Condition Select Bool)
  have converted : ∀ b, Value.bool (!b) = negated (.bool b) := fun _ => rfl
  refine ⟨⟨rfl, closing rfl⟩, ⟨rfl, untouched rfl not⟩, converted, ?_⟩
  intro config scope column
  exact (renders Value.bool config scope column).2.2 not Value.bool negated converted

end Condition

end BoundSql
