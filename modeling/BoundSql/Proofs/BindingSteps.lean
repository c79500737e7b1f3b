import BoundSql.Proofs.Filling
import Mathlib.Data.List.Find
import Mathlib.Data.List.Nodup

/-!
# Parameters built step by step

Parameters are only ever added to: a step binds one value, or all values of parameters that steps of
their own have built before. `Parameters.run_eq_ok_iff` says what a run of steps comes to: it
succeeds with exactly those parameters whose entries are the ones that the steps add, in their
order. All else is read off this equation: there is no result if two of the keys are equal, and how
merges are nested makes no difference to it.
-/

namespace BoundSql

/-- A step that adds to parameters. -/
inductive BindingStep where
  | insert (key : String) (value : Value)
  /-- All of the parameters that these steps build. -/
  | merge (steps : List BindingStep)

mutual

/-- The entries that a step adds. -/
def BindingStep.entries : BindingStep → List (String × Value)
  | .insert key value => [(key, value)]
  | .merge steps => addedEntries steps

def addedEntries : List BindingStep → List (String × Value)
  | [] => []
  | s :: rest => s.entries ++ addedEntries rest

end

namespace Parameters

mutual

/-- The parameters after a step. What is merged is built first, from nothing. -/
def apply (p : Parameters) : BindingStep → Except Collision Parameters
  | .insert key value => p.insert key value
  | .merge steps => do p.merge (← run empty steps)

/-- The parameters after all steps. -/
def run (p : Parameters) : List BindingStep → Except Collision Parameters
  | [] => .ok p
  | s :: rest => do run (← apply p s) rest

end

/-! ## What is added -/

theorem insert_eq_insertAll (p : Parameters) (key : String) (value : Value) :
    p.insert key value = p.insertAll [(key, value)] := by
  rw [insertAll_cons]
  rcases p.insert key value with c | q <;> rfl

theorem insertAll_eq_ok_iff {p q : Parameters} {added : List (String × Value)} :
    p.insertAll added = .ok q ↔ q.entries = p.entries ++ added := by
  have outcome := insertAll_settles p added
  constructor
  · intro run
    rw [run] at outcome
    exact outcome
  · intro entries
    rcases run : p.insertAll added with c | r <;> rw [run] at outcome
    · -- `q` has the keys that a refusal says are not distinct
      exact absurd (entries ▸ q.nodup_keys) outcome
    · exact congrArg Except.ok (ext (outcome.trans entries.symm))

theorem merge_eq_ok_iff {p q r : Parameters} :
    p.merge q = .ok r ↔ r.entries = p.entries ++ q.entries :=
  insertAll_eq_ok_iff

theorem bind_eq_ok_iff {α β : Type} {e : Except Collision α} {f : α → Except Collision β} {b : β} :
    e >>= f = .ok b ↔ ∃ a, e = .ok a ∧ f a = .ok b := by
  rcases e with c | a
  · constructor
    · intro h
      cases h
    · rintro ⟨a, h, -⟩
      cases h
  · constructor
    · exact fun run => ⟨a, rfl, run⟩
    · rintro ⟨a, ⟨⟩, run⟩
      exact run

/-- The front of parameters is parameters. -/
theorem exists_entries_eq {q : Parameters} {front back : List (String × Value)}
    (h : q.entries = front ++ back) : ∃ p : Parameters, p.entries = front := by
  have distinct := q.nodup_keys
  rw [h, List.map_append] at distinct
  exact ⟨⟨front, (List.nodup_append.mp distinct).1⟩, rfl⟩

mutual

theorem apply_eq_ok_iff : ∀ {p q : Parameters} {s : BindingStep},
    p.apply s = .ok q ↔ q.entries = p.entries ++ s.entries
  | p, q, .insert key value => by
    rw [apply, insert_eq_insertAll, insertAll_eq_ok_iff, BindingStep.entries]
  | p, q, .merge steps => by
    rw [apply, bind_eq_ok_iff, BindingStep.entries]
    constructor
    · rintro ⟨r, built, merged⟩
      rw [run_eq_ok_iff] at built
      rw [merge_eq_ok_iff.mp merged, built]
      rfl
    · intro entries
      have distinct := q.nodup_keys
      rw [entries, List.map_append] at distinct
      refine ⟨⟨addedEntries steps, (List.nodup_append.mp distinct).2.1⟩, ?_, ?_⟩
      · rw [run_eq_ok_iff]
        rfl
      · exact merge_eq_ok_iff.mpr entries

/-- A run of steps gives the parameters with the entries of all steps behind those before. -/
theorem run_eq_ok_iff : ∀ {p q : Parameters} {steps : List BindingStep},
    p.run steps = .ok q ↔ q.entries = p.entries ++ addedEntries steps
  | p, q, [] => by
    rw [run, addedEntries, List.append_nil, Except.ok.injEq]
    exact ⟨fun h => h ▸ rfl, fun h => ext h.symm⟩
  | p, q, s :: rest => by
    rw [run, bind_eq_ok_iff, addedEntries, ← List.append_assoc]
    constructor
    · rintro ⟨r, first, others⟩
      rw [run_eq_ok_iff, apply_eq_ok_iff.mp first] at others
      exact others
    · intro entries
      obtain ⟨r, front⟩ := exists_entries_eq entries
      refine ⟨r, apply_eq_ok_iff.mpr front, ?_⟩
      rw [run_eq_ok_iff, front]
      exact entries

end

theorem run_empty_eq_ok_iff {p : Parameters} {steps : List BindingStep} :
    empty.run steps = .ok p ↔ p.entries = addedEntries steps :=
  run_eq_ok_iff

/-! ## What is refused -/

theorem contains_iff {p : Parameters} {key : String} : p.contains key = true ↔ key ∈ p.keys := by
  rw [contains, List.contains_iff_mem]

/-- Of several entries with distinct keys, the first whose key is bound already is refused. -/
theorem insertAll_eq_error_iff : ∀ {p : Parameters} {added : List (String × Value)} {c : Collision},
    (added.map Prod.fst).Nodup →
      (p.insertAll added = .error c ↔ (added.map Prod.fst).find? p.contains = some c.key)
  | p, [], c, _ => by simp
  | p, (key, value) :: rest, c, distinct => by
    rw [List.map_cons, List.nodup_cons] at distinct
    rw [insertAll_cons, List.map_cons]
    rcases inserted : p.insert key value with ⟨bound⟩ | q
    · obtain ⟨present, rfl⟩ := insert_eq_error_iff.mp inserted
      rw [List.find?_cons_of_pos present, Option.some.injEq]
      exact ⟨fun h => by cases h; rfl, fun h => by subst h; rfl⟩
    · obtain ⟨fresh, entries⟩ := insert_eq_ok_iff.mp inserted
      -- behind the first entry only its own key is bound besides, and no later entry has it
      have same : ∀ k ∈ rest.map Prod.fst, q.contains k = p.contains k := by
        intro k hk
        have other : k ≠ key := fun h => distinct.1 (h ▸ hk)
        rw [Bool.eq_iff_iff, contains_iff, contains_iff, keys, entries]
        simp [keys, other]
      rw [List.find?_cons_of_neg (by simp [fresh]), ← List.find?_congr same]
      exact insertAll_eq_error_iff distinct.2

/-- What the step merges, if it merges something, can be built. -/
def Ready : BindingStep → Prop
  | .insert _ _ => True
  | .merge steps => ∃ q, empty.run steps = .ok q

theorem Ready.nodup : ∀ {s : BindingStep}, Ready s → (s.entries.map Prod.fst).Nodup
  | .insert key value, _ => List.nodup_singleton key
  | .merge steps, ⟨q, built⟩ => by
    rw [BindingStep.entries, ← run_empty_eq_ok_iff.mp built]
    exact q.nodup_keys

theorem Ready.apply_eq (p : Parameters) : ∀ {s : BindingStep}, Ready s →
    p.apply s = p.insertAll s.entries
  | .insert key value, _ => by rw [apply, BindingStep.entries, insert_eq_insertAll]
  | .merge steps, ⟨q, built⟩ => by
    rw [apply, built, BindingStep.entries, ← run_empty_eq_ok_iff.mp built]
    rfl

/-! ## Looking up -/

theorem lookup_eq_some_iff_mem {α : Type} {l : List (String × α)}
    (distinct : (l.map Prod.fst).Nodup) {key : String} {a : α} :
    l.lookup key = some a ↔ (key, a) ∈ l := by
  induction l with
  | nil => simp
  | cons entry l ih =>
    obtain ⟨k, b⟩ := entry
    rw [List.map_cons, List.nodup_cons] at distinct
    by_cases same : key = k
    · subst same
      have absent : (key, a) ∉ l := fun h => distinct.1 (List.mem_map.mpr ⟨_, h, rfl⟩)
      rw [List.lookup_cons_self, List.mem_cons, or_iff_left absent, Option.some.injEq,
        Prod.mk.injEq, eq_comm, and_iff_right rfl]
    · have other : (key == k) = false := beq_false_of_ne same
      rw [List.lookup_cons, other, ih distinct.2, List.mem_cons, Prod.mk.injEq]
      simp [same]

theorem get?_eq_some_iff {p : Parameters} {key : String} {value : Value} :
    p.get? key = some value ↔ (key, value) ∈ p.entries :=
  lookup_eq_some_iff_mem p.nodup_keys

theorem map_get?_keys (p : Parameters) : p.keys.map p.get? = p.values.map some := by
  rw [keys, values, List.map_map, List.map_map]
  refine List.map_congr_left fun entry mem => ?_
  exact get?_eq_some_iff.mpr mem

/-! ## Merging -/

/-- How merges are nested makes no difference: there is a result if there is one the other way, and
it is the same. -/
theorem merge_merge_eq_ok_iff {p q r m : Parameters} :
    (do (← p.merge q).merge r) = .ok m ↔ (do p.merge (← q.merge r)) = .ok m := by
  have whole : m.entries = p.entries ++ q.entries ++ r.entries ↔
      m.entries = p.entries ++ (q.entries ++ r.entries) := by rw [List.append_assoc]
  rw [bind_eq_ok_iff, bind_eq_ok_iff]
  constructor
  · rintro ⟨n, first, second⟩
    rw [merge_eq_ok_iff, merge_eq_ok_iff.mp first, whole] at second
    have distinct := m.nodup_keys
    rw [second, List.map_append] at distinct
    exact ⟨⟨_, (List.nodup_append.mp distinct).2.1⟩, merge_eq_ok_iff.mpr rfl,
      merge_eq_ok_iff.mpr second⟩
  · rintro ⟨n, first, second⟩
    rw [merge_eq_ok_iff, merge_eq_ok_iff.mp first, ← whole] at second
    obtain ⟨front, entries⟩ := exists_entries_eq second
    refine ⟨front, merge_eq_ok_iff.mpr entries, ?_⟩
    rw [merge_eq_ok_iff, entries]
    exact second

/-- The parameters are what was added: every value under a key of its own, found under it, and
listed in the order in which it was added. -/
structure Hold (p : Parameters) (added : List (String × Value)) : Prop where
  entries : p.entries = added
  distinct : (added.map Prod.fst).Nodup
  get? : ∀ key value, p.get? key = some value ↔ (key, value) ∈ added
  values : p.values = added.map Prod.snd
  get?_keys : p.keys.map p.get? = p.values.map some

theorem hold_entries (p : Parameters) : p.Hold p.entries where
  entries := rfl
  distinct := p.nodup_keys
  get? _ _ := get?_eq_some_iff
  values := rfl
  get?_keys := p.map_get?_keys

/-- Steps from nothing succeed exactly if the keys of all that they add are distinct, those inside
of merged parameters included. What they come to holds just that. From there, a step is refused at
the first of the keys it adds that is bound already, and only so; and merging is associative, where
it fails too. -/
theorem append_only (steps : List BindingStep) :
    ((∃ p, empty.run steps = .ok p) ↔ ((addedEntries steps).map Prod.fst).Nodup) ∧
    ∀ p, empty.run steps = .ok p →
      p.Hold (addedEntries steps) ∧
      (∀ (s : BindingStep) (c : Collision), Ready s →
        (p.apply s = .error c ↔ (s.entries.map Prod.fst).find? p.contains = some c.key)) ∧
      ∀ q r m : Parameters,
        (do (← p.merge q).merge r) = .ok m ↔ (do p.merge (← q.merge r)) = .ok m := by
  refine ⟨⟨?_, ?_⟩, ?_⟩
  · rintro ⟨p, built⟩
    rw [← run_empty_eq_ok_iff.mp built]
    exact p.nodup_keys
  · intro distinct
    exact ⟨⟨addedEntries steps, distinct⟩, run_empty_eq_ok_iff.mpr rfl⟩
  · intro p built
    rw [← run_empty_eq_ok_iff.mp built]
    refine ⟨p.hold_entries, ?_, fun q r m => merge_merge_eq_ok_iff⟩
    intro s c ready
    rw [ready.apply_eq p, insertAll_eq_error_iff ready.nodup]

/-- A value, and two more that were put together before. -/
def threeBound : List BindingStep :=
  [.insert "p2" .null, .merge [.insert "p1" (.bool true), .insert "p3" .null]]

theorem threeBound_append_only : ∃ p, empty.run threeBound = .ok p ∧
    p.get? "p1" = some (.bool true) ∧
    p.apply (.merge [.insert "p4" .null, .insert "p3" .null, .insert "p1" .null]) =
      .error ⟨"p3"⟩ := by
  obtain ⟨succeeds, built⟩ := append_only threeBound
  obtain ⟨p, run⟩ := succeeds.mpr (by decide)
  obtain ⟨holds, refused, -⟩ := built p run
  have further : Ready (.merge [.insert "p4" .null, .insert "p3" .null, .insert "p1" .null]) :=
    (append_only _).1.mpr (by decide)
  refine ⟨p, run, (holds.get? "p1" (.bool true)).mpr ?_, (refused _ _ further).mpr ?_⟩
  · simp [threeBound, addedEntries, BindingStep.entries]
  · have keys : p.contains = ["p2", "p1", "p3"].contains := by
      funext key
      rw [contains, Parameters.keys, holds.entries]
      rfl
    rw [keys]
    decide

end Parameters

end BoundSql
