import BoundSql.Value.Text

/-!
# Parameters

The parameters of a statement: values under distinct keys, in the order in which they were bound.
Binding a key twice is refused with a `Collision`, so no parameter ever replaces another.
-/

namespace BoundSql

/-- A key was bound twice. -/
structure Collision where
  key : String
  deriving DecidableEq

/-- What a collision is reported as. -/
def Collision.message (c : Collision) : String :=
  "parameter key collision: '" ++ c.key ++ "' is already bound"

/-- Values under distinct keys, in the order of binding. -/
structure Parameters where
  entries : List (String × Value)
  nodup_keys : (entries.map Prod.fst).Nodup

namespace Parameters

def empty : Parameters := ⟨[], by simp⟩

instance : EmptyCollection Parameters := ⟨empty⟩

def keys (p : Parameters) : List String := p.entries.map Prod.fst

def values (p : Parameters) : List Value := p.entries.map Prod.snd

def size (p : Parameters) : Nat := p.entries.length

def isEmpty (p : Parameters) : Bool := p.entries.isEmpty

def contains (p : Parameters) (key : String) : Bool := p.keys.contains key

def get? (p : Parameters) (key : String) : Option Value := p.entries.lookup key

theorem nodup_keys_append {p : Parameters} {key : String} (value : Value)
    (fresh : p.contains key = false) : ((p.entries ++ [(key, value)]).map Prod.fst).Nodup := by
  have absent : key ∉ p.entries.map Prod.fst := by simpa [contains, keys] using fresh
  rw [List.map_append, List.nodup_append]
  refine ⟨p.nodup_keys, by simp, ?_⟩
  intro a ha b hb
  simp only [List.map_cons, List.map_nil, List.mem_singleton] at hb
  exact fun h => absent (by rw [← hb, ← h]; exact ha)

/-- The parameters with one more bound behind them. -/
def insert (p : Parameters) (key : String) (value : Value) : Except Collision Parameters :=
  if fresh : p.contains key = false then
    .ok ⟨p.entries ++ [(key, value)], nodup_keys_append value fresh⟩
  else .error ⟨key⟩

@[ext]
theorem ext {p q : Parameters} (h : p.entries = q.entries) : p = q := by
  cases p
  cases q
  cases h
  rfl

/-- Binding succeeds exactly on a key that is free, and only appends. -/
theorem insert_eq_ok_iff {p q : Parameters} {key : String} {value : Value} :
    p.insert key value = .ok q ↔
      p.contains key = false ∧ q.entries = p.entries ++ [(key, value)] := by
  unfold insert
  split
  · next fresh =>
    constructor
    · rintro ⟨⟩
      exact ⟨fresh, rfl⟩
    · rintro ⟨_, h⟩
      exact congrArg Except.ok (ext h.symm)
  · next bound => simp [bound]

/-- The collision names the key that was bound already. -/
theorem insert_eq_error_iff {p : Parameters} {key : String} {value : Value} {c : Collision} :
    p.insert key value = .error c ↔ p.contains key = true ∧ c = ⟨key⟩ := by
  unfold insert
  split
  · next fresh => simp [fresh]
  · next bound =>
    simp only [Bool.not_eq_false] at bound
    simp [bound, eq_comm]

/-- The parameters with the given ones bound behind them, one after the other. -/
def insertAll (p : Parameters) : List (String × Value) → Except Collision Parameters
  | [] => .ok p
  | (key, value) :: rest => do (← p.insert key value).insertAll rest

@[simp]
theorem insertAll_nil (p : Parameters) : p.insertAll [] = .ok p := rfl

theorem insertAll_cons (p : Parameters) (key : String) (value : Value)
    (rest : List (String × Value)) :
    p.insertAll ((key, value) :: rest) = p.insert key value >>= fun q => q.insertAll rest := rfl

/-- The parameters with all of `q` behind them. -/
def merge (p q : Parameters) : Except Collision Parameters :=
  p.insertAll q.entries

def ofList (entries : List (String × Value)) : Except Collision Parameters :=
  empty.insertAll entries

/-- Equality of keys, values and order. -/
def same (p q : Parameters) : Bool :=
  p.keys == q.keys && p.size == q.size && (p.values.zip q.values).all fun (a, b) => a.same b

/-- The JSON object of the parameters. -/
def toJson (p : Parameters) : Json :=
  .object (p.entries.map fun (key, value) => (key, value.toJson))

end Parameters

end BoundSql
