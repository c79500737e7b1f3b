/-!
# Tables

A table is told apart by its identity and not by its name, so that two tables of one name can stand
for the two sides of a self-join.
-/

namespace BoundSql

structure Table where
  /-- What tells tables of one name apart. -/
  identity : Nat
  name : String
  deriving DecidableEq

/-- The two are the same table. -/
def Table.same (t u : Table) : Bool := t.identity == u.identity

@[simp]
theorem Table.same_iff {t u : Table} : t.same u = true ↔ t.identity = u.identity := by
  simp [Table.same]

end BoundSql
