import BoundSql.Condition.Combinators

/-!
# What a step evaluates

`Modifier.apply` is a step as a plain function, and `Modifier.probes` lists what the step evaluates.
A step that tells an observer of its evaluations tells it of these, in this order, and then gives
what the plain step gives, whatever the observer does (`Modifier.run_eq`). Behind a closed gate
there is nothing to evaluate and nothing to open it again.
-/

namespace BoundSql

variable {σ α β : Type}

namespace Operand

/-! ## Steps on operands -/

/-- The values that pass a test. A pair is kept if both of its bounds pass. -/
def filter (test : α → Bool) : Operand σ α → Operand σ α
  | .single value => .single (value.filter test)
  | .pair values => .pair (values.filter fun ab => test ab.1 && test ab.2)
  | .list values => .list (values.filter test)
  | operand => operand

/-- A pair that passes a test. -/
def filterPair (test : α → α → Bool) : Operand σ α → Operand σ α
  | .pair values => .pair (values.filter fun ab => test ab.1 ab.2)
  | operand => operand

/-- The operand with every value mapped. -/
def map (f : α → β) : Operand σ α → Operand σ β
  | .noValue isOpen => .noValue isOpen
  | .single value => .single (value.map f)
  | .pair values => .pair (values.map (Prod.map f f))
  | .list values => .list (values.map f)
  | .column other => .column other
  | .select query => .select query

/-- The values that a test is asked about. The second bound of a pair is left alone if the first one
fails. -/
def tested (test : α → Bool) : Operand σ α → List α
  | .single value => value.toList
  | .pair (some (a, b)) => if test a then [a, b] else [a]
  | .list values => values
  | _ => []

/-- The pair that a test is asked about. -/
def testedPairs : Operand σ α → List (α × α)
  | .pair values => values.toList
  | _ => []

section Closed

variable {o : Operand σ α}

theorem tested_eq_nil_of_not_isOpen (h : o.isOpen = false) (test : α → Bool) :
    o.tested test = [] := by
  cases o with
  | single value => cases value <;> simp_all [isOpen, tested]
  | pair values => cases values <;> simp_all [isOpen, tested]
  | list values => simp_all [isOpen, tested]
  | _ => rfl

theorem testedPairs_eq_nil_of_not_isOpen (h : o.isOpen = false) : o.testedPairs = [] := by
  cases o with
  | pair values => cases values <;> simp_all [isOpen, testedPairs]
  | _ => rfl

/-- A closed operand has no values to lose. -/
theorem filter_of_not_isOpen (h : o.isOpen = false) (test : α → Bool) : o.filter test = o := by
  cases o with
  | single value => cases value <;> simp_all [isOpen, filter]
  | pair values => cases values <;> simp_all [isOpen, filter]
  | list values => simp_all [isOpen, filter]
  | _ => rfl

theorem filterPair_of_not_isOpen (h : o.isOpen = false) (test : α → α → Bool) :
    o.filterPair test = o := by
  cases o with
  | pair values => cases values <;> simp_all [isOpen, filterPair]
  | _ => rfl

end Closed

/-- Mapping the values leaves the gate as it is. -/
@[simp]
theorem isOpen_map (f : α → β) (o : Operand σ α) : (o.map f).isOpen = o.isOpen := by
  cases o <;> simp [isOpen, map]

end Operand

/-! ## Steps with an observer -/

section Observed

variable {m : Type → Type} [Monad m] [LawfulMonad m]

theorem keepM_eq (observe : α → m Unit) (test : α → Bool) (vs : List α) :
    keepM (fun v => do observe v; return test v) vs = do
      forM vs observe
      return vs.filter test := by
  induction vs with
  | nil => simp [keepM]
  | cons v vs ih =>
    rw [keepM, ih]
    simp only [List.forM_cons, List.filter_cons, bind_assoc, pure_bind]

theorem mapM_eq (observe : α → m Unit) (f : α → β) (vs : List α) :
    (vs.mapM fun v => do observe v; return f v) = do
      forM vs observe
      return vs.map f := by
  induction vs with
  | nil => simp
  | cons v vs ih =>
    rw [List.mapM_cons, ih]
    simp only [List.forM_cons, List.map_cons, bind_assoc, pure_bind]

namespace Operand

theorem filterM_eq (observe : α → m Unit) (test : α → Bool) (o : Operand σ α) :
    o.filterM (fun v => do observe v; return test v) = do
      forM (o.tested test) observe
      return o.filter test := by
  cases o with
  | single value => cases value <;> simp [filterM, tested, filter, Option.filter]
  | pair values =>
    rcases values with _ | ⟨a, b⟩
    · simp [filterM, tested, filter]
    · cases first : test a <;> simp [filterM, tested, filter, first, Option.filter]
  | list values =>
    rw [filterM, keepM_eq]
    simp [tested, filter]
  | _ => simp [filterM, tested, filter]

theorem filterPairM_eq (observe : α → α → m Unit) (test : α → α → Bool) (o : Operand σ α) :
    o.filterPairM (fun a b => do observe a b; return test a b) = do
      forM o.testedPairs fun ab => observe ab.1 ab.2
      return o.filterPair test := by
  cases o with
  | pair values =>
    rcases values with _ | ⟨a, b⟩ <;> simp [filterPairM, testedPairs, filterPair, Option.filter]
  | _ => simp [filterPairM, testedPairs, filterPair]

theorem mapM_eq (observe : α → m Unit) (f : α → β) (o : Operand σ α) :
    o.mapM (fun v => do observe v; return f v) = do
      forM o.values observe
      return o.map f := by
  cases o with
  | single value => cases value <;> simp [mapM, values, map]
  | pair values => rcases values with _ | ⟨a, b⟩ <;> simp [mapM, values, map]
  | list values =>
    rw [mapM, BoundSql.mapM_eq]
    simp [Operand.values, map]
  | _ => simp [mapM, values, map]

end Operand

end Observed

/-! ## Steps on conditions -/

namespace Condition

variable (c : Condition σ α)

theorem filter_eq (test : α → Bool) :
    c.filter test = { c with operand := c.operand.filter test } :=
  congrArg (fun o : Operand σ α => { c with operand := o })
    (Operand.filterM_eq (m := Id) (fun _ => pure ()) test c.operand)

theorem filterPair_eq (test : α → α → Bool) :
    c.filterPair test = { c with operand := c.operand.filterPair test } :=
  congrArg (fun o : Operand σ α => { c with operand := o })
    (Operand.filterPairM_eq (m := Id) (fun _ _ => pure ()) test c.operand)

theorem map_eq (f : α → β) :
    c.map f = ⟨c.operator, c.operand.map f, c.upperColumn, c.onEmptyList⟩ :=
  congrArg (fun o => (⟨c.operator, o, c.upperColumn, c.onEmptyList⟩ : Condition σ β))
    (Operand.mapM_eq (m := Id) (fun _ => pure ()) f c.operand)

theorem when_eq (test : Bool) : c.when test = if c.isOpen && !test then c.close else c := by
  cases gate : c.isOpen <;> cases test <;> simp [Condition.when, whenM, gate]

@[simp]
theorem isOpen_map (f : α → β) : (c.map f).isOpen = c.isOpen := by
  rw [map_eq]
  exact c.operand.isOpen_map f

theorem mapM_eq {m : Type → Type} [Monad m] [LawfulMonad m] (observe : α → m Unit) (f : α → β) :
    c.mapM (fun v => do observe v; return f v) = do
      forM c.values observe
      return c.map f := by
  simp only [mapM, map_eq, Operand.mapM_eq, bind_assoc, pure_bind, Condition.values]

end Condition

namespace Modifier

/-- The step without an observer. -/
def apply (c : Condition σ α) : Modifier α → Condition σ α
  | .filter test => c.filter test
  | .filterPair test => c.filterPair test
  | .when test => c.when test
  | .map f => c.map f
  | .reportingEmptyList label => c.reportingEmptyList label

/-- What the step evaluates, in this order. -/
def probes (c : Condition σ α) : Modifier α → List (Probe α)
  | .filter test => (c.operand.tested test).map .tested
  | .filterPair _ => c.operand.testedPairs.map fun ab => .testedPair ab.1 ab.2
  | .when _ => if c.isOpen then [.asked] else []
  | .map _ => c.values.map .mapped
  | .reportingEmptyList _ => []

/-- A step tells its observer of its evaluations, one by one, and gives what the plain one gives. -/
theorem run_eq {m : Type → Type} [Monad m] [LawfulMonad m] (observe : Probe α → m Unit)
    (c : Condition σ α) (s : Modifier α) :
    s.run observe c = do
      forM (s.probes c) observe
      return s.apply c := by
  cases s with
  | filter test =>
    simp only [run, Condition.filterM, probes, apply, Condition.filter_eq, List.forM_map,
      Operand.filterM_eq, bind_assoc, pure_bind]
  | filterPair test =>
    simp only [run, Condition.filterPairM, probes, apply, Condition.filterPair_eq, List.forM_map,
      Operand.filterPairM_eq, bind_assoc, pure_bind]
  | when test =>
    cases gate : c.isOpen <;> cases test <;>
      simp [run, Condition.whenM, probes, apply, Condition.when_eq, gate]
  | map f => rw [run, Condition.mapM_eq, probes, List.forM_map, apply]
  | reportingEmptyList label => simp [run, probes, apply]

theorem operator_apply (c : Condition σ α) (s : Modifier α) :
    (s.apply c).operator = c.operator := by
  cases s with
  | when test =>
    rw [apply, Condition.when_eq]
    split <;> rfl
  | _ => rfl

theorem upperColumn_apply (c : Condition σ α) (s : Modifier α) :
    (s.apply c).upperColumn = c.upperColumn := by
  cases s with
  | when test =>
    rw [apply, Condition.when_eq]
    split <;> rfl
  | _ => rfl

section Closed

variable {c : Condition σ α}

/-- Behind a closed gate nothing is evaluated. -/
theorem probes_of_not_isOpen (closed : c.isOpen = false) (s : Modifier α) : s.probes c = [] := by
  cases s with
  | filter test => rw [probes, Operand.tested_eq_nil_of_not_isOpen closed, List.map_nil]
  | filterPair test => rw [probes, Operand.testedPairs_eq_nil_of_not_isOpen closed, List.map_nil]
  | when test => rw [probes, closed, if_neg Bool.false_ne_true]
  | map f =>
    rw [probes, Condition.values, Operand.values_eq_nil_of_not_isOpen closed, List.map_nil]
  | reportingEmptyList label => rfl

/-- No step opens a closed gate. -/
theorem isOpen_apply_of_not_isOpen (closed : c.isOpen = false) (s : Modifier α) :
    (s.apply c).isOpen = false := by
  cases s with
  | filter test =>
    rw [apply, Condition.filter_eq, Operand.filter_of_not_isOpen closed]
    exact closed
  | filterPair test =>
    rw [apply, Condition.filterPair_eq, Operand.filterPair_of_not_isOpen closed]
    exact closed
  | when test =>
    rw [apply, Condition.when_eq, closed, Bool.false_and, if_neg Bool.false_ne_true]
    exact closed
  | map f => rw [apply, Condition.isOpen_map, closed]
  | reportingEmptyList label => exact closed

end Closed

end Modifier

end BoundSql
