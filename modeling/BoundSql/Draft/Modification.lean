import BoundSql.Draft.Where
import BoundSql.Error
import BoundSql.Statement

/-!
# Writing inserts, updates and deletes

A row is written setting by setting. A value that may be absent is either set to null or leaves its
column out; an insert or update that is left without any column is refused.
-/

namespace BoundSql

/-- One call that sets a column. -/
inductive Setting where
  | null
  | constant (text : String)
  | stringConstant (text : String)
  | value (v : Value)
  | column (other : Column)
  /-- A value, or null if it is absent. -/
  | valueOrNull (v : Option Value)
  /-- A value; the column is left out if it is absent. -/
  | valueWhenPresent (v : Option Value)

/-- What the column is set to, unless it is left out. -/
def Setting.assigned? : Setting → Option Assigned
  | .null => some .null
  | .constant text => some (.constant text)
  | .stringConstant text => some (.stringConstant text)
  | .value v => some (.value v)
  | .column other => some (.column other)
  | .valueOrNull (some v) => some (.value v)
  | .valueOrNull none => some .null
  | .valueWhenPresent v => v.map .value

/-- The assignments with one more column set. -/
def setColumn (assignments : List Assignment) (column : Column) (setting : Setting) :
    List Assignment :=
  match setting.assigned? with
  | some value => assignments ++ [⟨column, value⟩]
  | none => assignments

structure InsertDraft where
  table : Table
  assignments : List Assignment := []

namespace InsertDraft

def set (d : InsertDraft) (column : Column) (setting : Setting) : InsertDraft :=
  { d with assignments := setColumn d.assignments column setting }

/-- The insert, if it sets a column. -/
def build (d : InsertDraft) : Except StatementError Insert :=
  if d.assignments.isEmpty then .error (.missing .insertMappings)
  else .ok ⟨d.table, d.assignments⟩

end InsertDraft

/-- Where the values of a column come from, over records of type `ρ`. -/
inductive RowSource (ρ : Type) where
  /-- A value of each record. -/
  | property (f : ρ → Value)
  | null
  | constant (text : String)
  | stringConstant (text : String)

/-- What the column is set to in the row of a record. -/
def RowSource.assigned {ρ : Type} (record : ρ) : RowSource ρ → Assigned
  | .property f => .value (f record)
  | .null => .null
  | .constant text => .constant text
  | .stringConstant text => .stringConstant text

/-- An insert of a row for each record as it is written. -/
structure MultiInsertDraft (ρ : Type) where
  records : List ρ
  table : Table
  sources : List (Column × RowSource ρ) := []
  returning : List Column := []

namespace MultiInsertDraft

variable {ρ : Type}

def map (d : MultiInsertDraft ρ) (column : Column) (source : RowSource ρ) : MultiInsertDraft ρ :=
  { d with sources := d.sources ++ [(column, source)] }

/-- The insert with one more column whose generated values come back. -/
def returningColumn (d : MultiInsertDraft ρ) (column : Column) : MultiInsertDraft ρ :=
  { d with returning := d.returning ++ [column] }

/-- The insert, if it has records and columns. -/
def build (d : MultiInsertDraft ρ) : Except StatementError MultiInsert :=
  if d.records.isEmpty then .error (.missing .records)
  else if d.sources.isEmpty then .error (.missing .insertMappings)
  else .ok
    { table := d.table
      columns := d.sources.map Prod.fst
      rows := d.records.map fun record => d.sources.map fun (_, source) => source.assigned record
      returning := d.returning }

end MultiInsertDraft

structure UpdateDraft where
  table : Table
  assignments : List Assignment := []

namespace UpdateDraft

def set (d : UpdateDraft) (column : Column) (setting : Setting) : UpdateDraft :=
  { d with assignments := setColumn d.assignments column setting }

/-- The update of the rows that meet a clause, if it sets a column. -/
def build (d : UpdateDraft) (clause : WhereDraft := .empty) : Except StatementError Update :=
  if d.assignments.isEmpty then .error (.missing .setClause)
  else .ok ⟨d.table, d.assignments, clause.criteria⟩

end UpdateDraft

/-- The delete of the rows of a table that meet a clause. -/
def Delete.build (table : Table) (clause : WhereDraft := .empty) : Delete :=
  ⟨table, clause.criteria⟩

end BoundSql
