import BoundSql.Schema.Column

/-!
# The registry of columns

Each table keeps the columns that were declared on it, in the order of their first declarations. A
name that is declared again keeps its first type, so all columns of one name in one table agree.
-/

namespace BoundSql

structure ColumnSpec where
  name : String
  dataType : DataType
  deriving DecidableEq

/-- The columns of every table, by the table's identity. -/
structure Schema where
  registries : List (List ColumnSpec)

namespace Schema

def empty : Schema := ⟨[]⟩

/-- A new table, the same as no other. -/
def newTable (s : Schema) (name : String) : Table × Schema :=
  (⟨s.registries.length, name⟩, ⟨s.registries ++ [[]]⟩)

/-- The columns of a table, in the order of their first declarations. -/
def columns (s : Schema) (t : Table) : List ColumnSpec :=
  s.registries[t.identity]?.getD []

/-- The type that a name was first declared with. -/
def typeOf? (s : Schema) (t : Table) (name : String) : Option DataType :=
  ((s.columns t).find? fun spec => spec.name == name).map ColumnSpec.dataType

/-- A column of a table, declared now if it was not before. -/
def column (s : Schema) (t : Table) (name : String) (type : DataType) : Column × Schema :=
  match s.typeOf? t name with
  | some first => (⟨t, name, first, none, none⟩, s)
  | none =>
    (⟨t, name, type, none, none⟩,
      ⟨s.registries.modify t.identity (· ++ [⟨name, type⟩])⟩)

/-! ## What a call does -/

variable {s : Schema} {t : Table} {name : String} {type : DataType}

/-- The table was made in this schema. -/
def Made (s : Schema) (t : Table) : Prop := t.identity < s.registries.length

theorem columns_congr (s : Schema) {t u : Table} (h : t.identity = u.identity) :
    s.columns t = s.columns u := by
  rw [columns, columns, h]

theorem made_newTable (s : Schema) (name : String) :
    (s.newTable name).2.Made (s.newTable name).1 := by
  simp [newTable, Made]

theorem columns_newTable (s : Schema) (name : String) :
    (s.newTable name).2.columns (s.newTable name).1 = [] := by
  simp [newTable, columns]

theorem Made.newTable (made : s.Made t) (name : String) : (s.newTable name).2.Made t := by
  simpa [Schema.newTable, Made] using Nat.lt_succ_of_lt made

theorem Made.ne_newTable (made : s.Made t) (name : String) :
    t.identity ≠ (s.newTable name).1.identity :=
  Nat.ne_of_lt made

theorem Made.columns_newTable (made : s.Made t) (name : String) :
    (s.newTable name).2.columns t = s.columns t := by
  simp [Schema.newTable, columns, List.getElem?_append_left made]

theorem Made.column (made : s.Made t) (u : Table) (name : String) (type : DataType) :
    (s.column u name type).2.Made t := by
  unfold Schema.column
  split
  · exact made
  · simpa [Made] using made

theorem mem_columns_of_typeOf? (h : s.typeOf? t name = some type) :
    ⟨name, type⟩ ∈ s.columns t := by
  obtain ⟨spec, found, rfl⟩ := Option.map_eq_some_iff.mp h
  obtain rfl : spec.name = name := by simpa using List.find?_some found
  exact List.mem_of_find?_eq_some found

theorem typeOf?_eq_none_iff :
    s.typeOf? t name = none ↔ name ∉ (s.columns t).map ColumnSpec.name := by
  simp [typeOf?, List.find?_eq_none]

/-- A declaration leaves everything as it is and gives the column of the first type if the name was
declared on the table before. If not, it gives a column of the type asked for, which comes behind
the other columns of this table, and leaves other tables as they are. -/
theorem column_cases (made : s.Made t) (name : String) (type : DataType) :
    (∃ first, ⟨name, first⟩ ∈ s.columns t ∧
      s.column t name type = (⟨t, name, first, none, none⟩, s)) ∨
    (name ∉ (s.columns t).map ColumnSpec.name ∧
      (s.column t name type).1 = ⟨t, name, type, none, none⟩ ∧
      ∀ u : Table, (s.column t name type).2.columns u =
        if t.identity = u.identity then s.columns u ++ [⟨name, type⟩] else s.columns u) := by
  rcases declared : s.typeOf? t name with _ | first
  · have fresh := typeOf?_eq_none_iff.mp declared
    refine .inr ⟨fresh, by simp [column, declared], fun u => ?_⟩
    simp only [column, declared, columns, List.getElem?_modify, Option.map_eq_map]
    split
    · next same =>
      rw [← same, List.getElem?_eq_getElem made]
      rfl
    · rw [Option.map_id']
  · exact .inl ⟨first, mem_columns_of_typeOf? declared, by simp [column, declared]⟩

end Schema

end BoundSql
