import BoundSql.Condition.Basic

/-!
# Narrowing and mapping conditions

`filter`, `filterPair` and `when` can only close a gate or drop elements of a list, and `map`
changes values and nothing else. What they are given is evaluated while the gate is open and never
after; the versions in a monad evaluate it with effects, in the order in which the values stand.

A chain of these steps is a list of `Modifier`s, and `Modifier.run` tells an observer of each
evaluation before it happens.
-/

namespace BoundSql

variable {σ α β : Type} {m : Type → Type} [Monad m]

/-- The elements that pass a test, tested once each from the first to the last. -/
def keepM (test : α → m Bool) : List α → m (List α)
  | [] => pure []
  | v :: vs => do
    let keep ← test v
    let rest ← keepM test vs
    return if keep then v :: rest else rest

namespace Operand

/-- The values that pass a test. The second bound of a pair is tested if the first one passes. -/
def filterM (test : α → m Bool) : Operand σ α → m (Operand σ α)
  | .single (some v) => do
    return .single (if ← test v then some v else none)
  | .pair (some (a, b)) => do
    if ← test a then
      return .pair (if ← test b then some (a, b) else none)
    else
      return .pair none
  | .list vs => .list <$> keepM test vs
  | operand => pure operand

/-- A pair that passes a test. -/
def filterPairM (test : α → α → m Bool) : Operand σ α → m (Operand σ α)
  | .pair (some (a, b)) => do
    return .pair (if ← test a b then some (a, b) else none)
  | operand => pure operand

/-- The operand with every value mapped. -/
def mapM (f : α → m β) : Operand σ α → m (Operand σ β)
  | .noValue isOpen => pure (.noValue isOpen)
  | .single none => pure (.single none)
  | .single (some v) => do return .single (some (← f v))
  | .pair none => pure (.pair none)
  | .pair (some (a, b)) => do
    let a ← f a
    let b ← f b
    return .pair (some (a, b))
  | .list vs => .list <$> vs.mapM f
  | .column other => pure (.column other)
  | .select query => pure (.select query)

end Operand

namespace Condition

/-- The condition with the values that pass a test; it is closed if none is left. -/
def filterM (test : α → m Bool) (c : Condition σ α) : m (Condition σ α) :=
  return { c with operand := ← c.operand.filterM test }

/-- The condition, closed if it compares with a pair that fails a test. -/
def filterPairM (test : α → α → m Bool) (c : Condition σ α) : m (Condition σ α) :=
  return { c with operand := ← c.operand.filterPairM test }

/-- The condition, closed if it is open and a test fails. -/
def whenM (test : m Bool) (c : Condition σ α) : m (Condition σ α) :=
  if c.isOpen then return if ← test then c else c.close else pure c

def mapM (f : α → m β) (c : Condition σ α) : m (Condition σ β) :=
  return ⟨c.operator, ← c.operand.mapM f, c.upperColumn, c.onEmptyList⟩

def filter (test : α → Bool) (c : Condition σ α) : Condition σ α :=
  Id.run (c.filterM fun v => pure (test v))

def filterPair (test : α → α → Bool) (c : Condition σ α) : Condition σ α :=
  Id.run (c.filterPairM fun a b => pure (test a b))

/-- The condition, closed if a test fails. -/
def when (test : Bool) (c : Condition σ α) : Condition σ α :=
  Id.run (c.whenM (pure test))

def map (f : α → β) (c : Condition σ α) : Condition σ β :=
  Id.run (c.mapM fun v => pure (f v))

/-- The condition with a report for the case that its list is empty. -/
def reportingEmptyList (label : String) (c : Condition σ α) : Condition σ α :=
  { c with onEmptyList := some label }

/-- A comparison of texts in upper case. -/
def ignoringCase (c : Condition σ String) : Condition σ String :=
  { c.map Text.toUppercase with upperColumn := true }

end Condition

/-! ## Chains -/

/-- One step of a chain. -/
inductive Modifier (α : Type) where
  | filter (test : α → Bool)
  | filterPair (test : α → α → Bool)
  | when (test : Bool)
  | map (f : α → α)
  | reportingEmptyList (label : String)

/-- One evaluation of what a step was given. -/
inductive Probe (α : Type) where
  | tested (v : α)
  | testedPair (a b : α)
  | asked
  | mapped (v : α)

/-- The condition after a step, with an observer told of each evaluation before it happens. -/
def Modifier.run (observe : Probe α → m Unit) (c : Condition σ α) :
    Modifier α → m (Condition σ α)
  | .filter test => c.filterM fun v => do observe (.tested v); return test v
  | .filterPair test => c.filterPairM fun a b => do observe (.testedPair a b); return test a b
  | .when test => c.whenM do observe .asked; return test
  | .map f => c.mapM fun v => do observe (.mapped v); return f v
  | .reportingEmptyList label => pure (c.reportingEmptyList label)

end BoundSql
