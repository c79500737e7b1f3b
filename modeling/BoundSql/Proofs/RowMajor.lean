import BoundSql.Draft.Modification
import BoundSql.Proofs.Numbering
import Mathlib.Data.List.Forall2

/-!
# Inserts of several rows

A written insert has a row for each record and a cell in it for each source, and it is numbered row
by row: with `b` sources that take a value of the record, the value that record `i` has for the
`j`-th of them is bound `i * b + j` places behind the first. Records may be put behind each other as
their rows are, and the insert of one record is the insert of one row.
-/

namespace BoundSql

open Rendering Template

variable {ρ : Type}

/-! ## Rows of one width -/

/-- In a list of rows of one width, the places of a row begin behind the places of those before. -/
theorem getElem?_flatMap_row {α β : Type} {f : α → List β} {width : Nat} :
    ∀ {l : List α}, (∀ a ∈ l, (f a).length = width) → ∀ {i j : Nat} {a : α}, l[i]? = some a →
      j < width → (l.flatMap f)[i * width + j]? = (f a)[j]?
  | [], _, _, _, _, h, _ => by simp at h
  | b :: l, same, i, j, a, h, inside => by
    obtain ⟨first, rest⟩ := List.forall_mem_cons.mp same
    rw [List.flatMap_cons]
    -- a place of the first row is in front of all others, one of a later row behind the first
    rcases i with _ | i
    · cases h
      rw [Nat.zero_mul, Nat.zero_add, List.getElem?_append_left (by omega)]
    · have behind : (f b).length ≤ (i + 1) * width + j := by
        rw [first, Nat.succ_mul]
        omega
      have shift : (i + 1) * width + j - (f b).length = i * width + j := by
        rw [first, Nat.succ_mul]
        omega
      rw [List.getElem?_append_right behind, shift]
      exact getElem?_flatMap_row rest h inside

theorem length_flatMap_row {α β : Type} {f : α → List β} {width : Nat} :
    ∀ {l : List α}, (∀ a ∈ l, (f a).length = width) → (l.flatMap f).length = l.length * width
  | [], _ => (Nat.zero_mul width).symm
  | b :: l, same => by
    obtain ⟨first, rest⟩ := List.forall_mem_cons.mp same
    rw [List.flatMap_cons, List.length_append, length_flatMap_row rest, first, List.length_cons,
      Nat.succ_mul, Nat.add_comm]

/-! ## Rows and their cells -/

namespace RowSource

/-- The value that the source takes of a record, if it takes one. -/
def property? : RowSource ρ → Option (ρ → Value)
  | .property f => some f
  | _ => none

/-- The text of the cell of a record; a value shows the placeholder of number `n`. -/
def cellText (config : Config) (n : Nat) (column : Column) (record : ρ) : RowSource ρ → String
  | .property f => Hole.placeholder config n ⟨some column, f record⟩
  | .null => "null"
  | .constant text => text
  | .stringConstant text => Text.literal text

theorem fill_assigned (config : Config) (scope : Scope) (n : Nat) (column : Column) (record : ρ)
    (source : RowSource ρ) :
    (assignedTemplate scope column (source.assigned record)).fill config n =
      source.cellText config n column record := by
  cases source <;> simp [assigned, assignedTemplate, cellText, ofText, fill_hole]

theorem holes_assigned (scope : Scope) (column : Column) (record : ρ) (source : RowSource ρ) :
    Template.holes (assignedTemplate scope column (source.assigned record)) =
      (source.property?.map fun f => (⟨some column, f record⟩ : Hole)).toList := by
  cases source <;> rfl

end RowSource

/-- The columns that take a value of each record, with the values they take. -/
def propertiesOf (sources : List (Column × RowSource ρ)) : List (Column × (ρ → Value)) :=
  sources.filterMap fun s => s.2.property?.map fun f => (s.1, f)

/-- The values that the row of a record binds. -/
def recordHoles (sources : List (Column × RowSource ρ)) (record : ρ) : List Hole :=
  (propertiesOf sources).map fun p => ⟨some p.1, p.2 record⟩

/-- The texts of the cells of a record, whose values are numbered from `n` on. -/
def cellTexts (config : Config) (n : Nat) (sources : List (Column × RowSource ρ)) (record : ρ) :
    List String :=
  sources.mapIdx fun j s =>
    s.2.cellText config (n + (propertiesOf (sources.take j)).length) s.1 record

/-- The templates of the cells of a record. -/
def cellTemplates (scope : Scope) (sources : List (Column × RowSource ρ)) (record : ρ) :
    List Template :=
  sources.map fun s => assignedTemplate scope s.1 (s.2.assigned record)

/-- The template of the row of a record. -/
def recordTemplate (scope : Scope) (sources : List (Column × RowSource ρ)) (record : ρ) :
    Template :=
  between "(" (join ", " (cellTemplates scope sources record)) ")"

section Cells

variable (scope : Scope) (sources : List (Column × RowSource ρ)) (record : ρ)

theorem length_recordHoles : (recordHoles sources record).length = (propertiesOf sources).length :=
  List.length_map _

theorem holesOf_cellTemplates : holesOf (cellTemplates scope sources record) =
    recordHoles sources record := by
  induction sources with
  | nil => rfl
  | cons s sources ih =>
    have first := RowSource.holes_assigned scope s.1 record s.2
    rw [cellTemplates, List.map_cons, holesOf_cons, ← cellTemplates, ih, first, recordHoles,
      recordHoles, propertiesOf, propertiesOf, List.filterMap_cons]
    rcases s.2.property? with _ | f <;> rfl

theorem rowTemplate_assigned : rowTemplate scope (sources.map Prod.fst)
      (sources.map fun s => s.2.assigned record) = recordTemplate scope sources record := by
  rw [rowTemplate, List.zipWith_map, List.zipWith_self, recordTemplate, cellTemplates]

theorem holes_recordTemplate :
    Template.holes (recordTemplate scope sources record) = recordHoles sources record := by
  rw [recordTemplate, holes_between, holes_join, holesOf_cellTemplates]

theorem holesOf_map_recordTemplate (records : List ρ) :
    holesOf (records.map (recordTemplate scope sources)) =
      records.flatMap (recordHoles sources) := by
  simp only [holesOf, List.flatMap_map, holes_recordTemplate]

theorem length_recordsHoles (records : List ρ) : (records.flatMap (recordHoles sources)).length =
    records.length * (propertiesOf sources).length :=
  length_flatMap_row fun record _ => length_recordHoles sources record

theorem fillAll_cellTemplates (config : Config) (n : Nat) :
    fillAll config n (cellTemplates scope sources record) = cellTexts config n sources record := by
  have before (j : Nat) : (holesOf ((cellTemplates scope sources record).take j)).length =
      (propertiesOf (sources.take j)).length := by
    rw [cellTemplates, ← List.map_take, ← cellTemplates, holesOf_cellTemplates, length_recordHoles]
  apply List.ext_getElem?
  intro j
  rw [getElem?_fillAll, before, cellTemplates, List.getElem?_map, cellTexts, List.getElem?_mapIdx]
  simp only [Option.map_map, Function.comp_def, RowSource.fill_assigned]

theorem fill_recordTemplate (config : Config) (n : Nat) :
    fill config n (recordTemplate scope sources record) =
      "(" ++ String.intercalate ", " (cellTexts config n sources record) ++ ")" := by
  rw [recordTemplate, fill_between, fill_join, fillAll_cellTemplates]

end Cells

/-! ## Written inserts -/

theorem forall₂_eq_map_iff {α β : Type} {f : α → β} {l : List α} {u : List β} :
    List.Forall₂ (fun a b => b = f a) l u ↔ u = l.map f := by
  rw [eq_comm, ← List.forall₂_eq_eq_eq, List.forall₂_map_left_iff]
  exact ⟨List.Forall₂.imp fun _ _ h => h.symm, List.Forall₂.imp fun _ _ h => h.symm⟩

/-- The insert has a row for each record, and in it a cell for each source, in their order. -/
structure MultiInsert.WrittenBy (i : MultiInsert) (d : MultiInsertDraft ρ) : Prop where
  table : i.table = d.table
  columns : i.columns = d.sources.map Prod.fst
  rows : List.Forall₂ (fun record row =>
    List.Forall₂ (fun source cell => cell = source.2.assigned record) d.sources row)
      d.records i.rows
  returning : i.returning = d.returning

namespace MultiInsertDraft

variable (d : MultiInsertDraft ρ)

/-- The texts of the rows, whose values are numbered from `start` on. -/
def rowTexts (config : Config) (start : Nat) : List String :=
  d.records.mapIdx fun i record =>
    "(" ++ String.intercalate ", "
      (cellTexts config (start + i * (propertiesOf d.sources).length) d.sources record) ++ ")"

/-- The text has all rows with all their cells, and the values are bound row by row. -/
structure RenderedByRow (config : Config) (start : Nat) (f : Fragment) (next : Nat) : Prop where
  text : f.text = insertHead d.table (d.sources.map Prod.fst) ++ ("values " ++
    String.intercalate ", " (d.rowTexts config start) ++ returningText d.returning)
  size : f.parameters.size = d.records.length * (propertiesOf d.sources).length
  entry : ∀ (i j : Nat) (record : ρ) (p : Column × (ρ → Value)), d.records[i]? = some record →
    (propertiesOf d.sources)[j]? = some p →
      f.parameters.entries[i * (propertiesOf d.sources).length + j]? =
        some (Hole.key config (start + (i * (propertiesOf d.sources).length + j))
          ⟨some p.1, p.2 record⟩, p.2 record)
  next : next = start + d.records.length * (propertiesOf d.sources).length

variable {d}

theorem build_eq_ok (records : d.records ≠ []) (sources : d.sources ≠ []) :
    ∃ i, d.build = .ok i ∧ i.WrittenBy d := by
  rw [build, if_neg (by simpa using records), if_neg (by simpa using sources)]
  refine ⟨_, rfl, rfl, rfl, ?_, rfl⟩
  simp only [forall₂_eq_map_iff]

theorem build_eq_missing_records_iff :
    d.build = .error (.missing .records) ↔ d.records = [] := by
  rw [build]
  split
  · next none => simpa using none
  · next some =>
    rw [List.isEmpty_iff] at some
    split <;> simp [some]

theorem build_eq_missing_mappings_iff :
    d.build = .error (.missing .insertMappings) ↔ d.records ≠ [] ∧ d.sources = [] := by
  rw [build]
  split
  · next none => simp_all
  · next some =>
    rw [List.isEmpty_iff] at some
    split <;> simp_all

end MultiInsertDraft

namespace MultiInsert.WrittenBy

variable {i : MultiInsert} {d : MultiInsertDraft ρ} {config : Config}

theorem rows_eq (h : i.WrittenBy d) :
    i.rows = d.records.map fun record => d.sources.map fun s => s.2.assigned record := by
  have rows := h.rows
  simp only [forall₂_eq_map_iff] at rows
  exact rows

theorem map_rowTemplate (h : i.WrittenBy d) (scope : Scope) :
    i.rows.map (rowTemplate scope i.columns) = d.records.map (recordTemplate scope d.sources) := by
  rw [h.rows_eq, h.columns, List.map_map]
  exact List.map_congr_left fun record _ => rowTemplate_assigned scope d.sources record

/-- The values of the insert are those of its records, one record behind the other. -/
theorem holes_eq (h : i.WrittenBy d) :
    (Statement.insertMultiple i).holes = d.records.flatMap (recordHoles d.sources) := by
  rw [← Statement.holes_template .empty, Statement.template, holes_text, holes_between, holes_join,
    h.map_rowTemplate, holesOf_map_recordTemplate]

theorem fillAll_rows (h : i.WrittenBy d) (scope : Scope) (start : Nat) :
    fillAll config start (i.rows.map (rowTemplate scope i.columns)) = d.rowTexts config start := by
  rw [h.map_rowTemplate]
  apply List.ext_getElem?
  intro j
  rw [getElem?_fillAll, MultiInsertDraft.rowTexts, List.getElem?_mapIdx, List.getElem?_map,
    ← List.map_take, holesOf_map_recordTemplate, length_recordsHoles, List.length_take]
  rcases found : d.records[j]? with _ | record
  · rfl
  · have inside : j < d.records.length := (List.getElem?_eq_some_iff.mp found).1
    rw [Nat.min_eq_left (Nat.le_of_lt inside)]
    simp only [Option.map_some, fill_recordTemplate]

theorem rendered_of_fills (h : i.WrittenBy d) {scope : Scope} {start : Nat} {f : Fragment}
    (fills : f.Fills config start ((Statement.insertMultiple i).template scope)) :
    d.RenderedByRow config start f (start + (Statement.insertMultiple i).holes.length) := by
  have entries := fills.entries
  rw [Statement.holes_template, h.holes_eq] at entries
  refine ⟨?_, ?_, ?_, ?_⟩
  · rw [fills.text, Statement.template, fill_text, fill_between, fill_join, h.fillAll_rows, h.table,
      h.columns, h.returning]
  · rw [Parameters.size, entries, entriesFrom, List.length_mapIdx, length_recordsHoles]
  · intro k j record p found taken
    have inside : j < (propertiesOf d.sources).length := (List.getElem?_eq_some_iff.mp taken).1
    have row := getElem?_flatMap_row (fun record _ => length_recordHoles d.sources record) found
      inside
    rw [entries, getElem?_entriesFrom, row, recordHoles, List.getElem?_map, taken]
    rfl
  · rw [h.holes_eq, length_recordsHoles]

theorem renders (h : i.WrittenBy d) (scope : Scope) {start : Progress}
    (distinct : (keysFrom config start.next (d.records.flatMap (recordHoles d.sources))).Nodup) :
    ∃ f stop, (renderMultiInsert config scope i).run start = .ok (f, stop) ∧
      f.parameters.entries =
        entriesFrom config start.next (d.records.flatMap (recordHoles d.sources)) ∧
      d.RenderedByRow config start.next f stop.next := by
  have filling : Renders config ((Statement.insertMultiple i).template scope)
      (renderMultiInsert config scope i) := renderMultiInsert_renders scope i
  have holes : Template.holes ((Statement.insertMultiple i).template scope) =
      d.records.flatMap (recordHoles d.sources) := by
    rw [Statement.holes_template, h.holes_eq]
  obtain ⟨f, stop, run, fills, next⟩ := filling.exists_ok (holes ▸ distinct)
  refine ⟨f, stop, run, holes ▸ fills.entries, ?_⟩
  rw [next, Statement.holes_template]
  exact h.rendered_of_fills fills

end MultiInsert.WrittenBy

/-! ## Records put behind each other -/

namespace MultiInsertDraft

variable {d : MultiInsertDraft ρ} {config : Config}

theorem rowTexts_append {xs ys : List ρ} (records : d.records = xs ++ ys) (config : Config)
    (start : Nat) : d.rowTexts config start = { d with records := xs }.rowTexts config start ++
      { d with records := ys }.rowTexts config
        (start + xs.length * (propertiesOf d.sources).length) := by
  have later (i : Nat) : start + (i + xs.length) * (propertiesOf d.sources).length =
      start + xs.length * (propertiesOf d.sources).length +
        i * (propertiesOf d.sources).length := by
    rw [Nat.add_mul, Nat.add_assoc, Nat.add_comm (xs.length * _)]
  rw [rowTexts, records, List.mapIdx_append]
  simp only [later]
  rfl

/-- The rows of the insert of `ys`, rendered behind that of `xs`, are the rows that are missing
there. -/
structure Continues (d : MultiInsertDraft ρ) (whole first second : Fragment) : Prop where
  text : ∃ rows, second.text = insertHead d.table (d.sources.map Prod.fst) ++ ("values " ++ rows) ∧
    whole.text = first.text ++ ", " ++ rows
  entries : whole.parameters.entries = first.parameters.entries ++ second.parameters.entries

theorem rowTexts_ne_nil (records : d.records ≠ []) (config : Config) (start : Nat) :
    d.rowTexts config start ≠ [] := by
  rw [rowTexts, ne_eq, List.mapIdx_eq_nil_iff]
  exact records

theorem RenderedByRow.text_of_returning_nil {f : Fragment} {start next : Nat}
    (h : d.RenderedByRow config start f next) (returning : d.returning = []) :
    f.text = insertHead d.table (d.sources.map Prod.fst) ++
      ("values " ++ String.intercalate ", " (d.rowTexts config start)) := by
  rw [h.text, returning, returningText, List.isEmpty_nil, if_pos rfl, String.append_empty]

/-- The insert of all records continues that of the first of them by that of the others. -/
theorem RenderedByRow.append {f : Fragment} {ix iy : MultiInsert} {xs ys : List ρ} (scope : Scope)
    {start stop : Progress} (h : d.RenderedByRow config start.next f stop.next)
    (first : ix.WrittenBy { d with records := xs })
    (second : iy.WrittenBy { d with records := ys })
    (entries : f.parameters.entries =
      entriesFrom config start.next (d.records.flatMap (recordHoles d.sources)))
    (records : d.records = xs ++ ys) (some : xs ≠ []) (more : ys ≠ [])
    (returning : d.returning = [])
    (distinct : (keysFrom config start.next (d.records.flatMap (recordHoles d.sources))).Nodup) :
    ∃ fx mid fy last, (renderMultiInsert config scope ix).run start = .ok (fx, mid) ∧
      (renderMultiInsert config scope iy).run mid = .ok (fy, last) ∧
      d.Continues f fx fy ∧ last.next = stop.next := by
  rw [records, List.flatMap_append] at entries
  rw [records, List.flatMap_append, keysFrom_append] at distinct
  obtain ⟨distinctFirst, distinctSecond, -⟩ := List.nodup_append.mp distinct
  obtain ⟨fx, mid, runFirst, entriesFirst, hx⟩ := first.renders scope distinctFirst
  -- the rows of `ys` are numbered from where those of `xs` end
  have midway : mid.next = start.next + xs.length * (propertiesOf d.sources).length := hx.next
  rw [length_recordsHoles, ← midway] at distinctSecond
  obtain ⟨fy, last, runSecond, entriesSecond, hy⟩ := second.renders scope distinctSecond
  have rows := rowTexts_append records config start.next
  rw [← midway] at rows
  have firstRows := rowTexts_ne_nil (d := { d with records := xs }) some config start.next
  have secondRows := rowTexts_ne_nil (d := { d with records := ys }) more config mid.next
  refine ⟨fx, mid, fy, last, runFirst, runSecond,
    ⟨⟨_, hy.text_of_returning_nil returning, ?_⟩, ?_⟩, ?_⟩
  · rw [h.text_of_returning_nil returning, hx.text_of_returning_nil returning, rows,
      String.intercalate_append_of_ne_nil firstRows secondRows]
    simp only [String.append_assoc]
  · rw [entries, entriesFirst, entriesSecond, entriesFrom_append, length_recordsHoles, midway]
  · rw [hy.next, h.next, midway, records, List.length_append, Nat.add_mul, Nat.add_assoc]

end MultiInsertDraft

/-! ## The insert of one record -/

namespace Rendering

theorem collect_singleton (m : Rendering Fragment) :
    collect .empty [m] = do let f ← m; return ⟨[f.text], f.parameters⟩ := by
  rw [collect]
  refine bind_congr fun f => ?_
  rw [Collector.empty_add]
  rfl

theorem renderMultiInsert_singleton (config : Config) (scope : Scope) (table : Table)
    (assignments : List Assignment) :
    renderMultiInsert config scope ⟨table, assignments.map Assignment.column,
        [assignments.map Assignment.value], []⟩ =
      renderInsert config scope ⟨table, assignments⟩ := by
  have opening : "values (" = "values " ++ "(" := rfl
  rw [renderMultiInsert, List.map_singleton, collect_singleton, renderRow, List.zipWith_map,
    List.zipWith_self, renderInsert]
  simp only [bind_assoc, pure_bind]
  refine bind_congr fun values => ?_
  simp only [Collector.wrapped, Fragment.after, returningText, String.intercalate_singleton,
    List.isEmpty_nil, if_true, String.append_empty, String.append_assoc, opening]

end Rendering

theorem MultiInsert.WrittenBy.renderMultiInsert_eq {i : MultiInsert} {d : MultiInsertDraft ρ}
    (h : i.WrittenBy d) (config : Config) (scope : Scope) {record : ρ} (one : d.records = [record])
    (returning : d.returning = []) :
    renderMultiInsert config scope i =
      renderInsert config scope ⟨d.table, d.sources.map fun s => ⟨s.1, s.2.assigned record⟩⟩ := by
  have single := renderMultiInsert_singleton config scope d.table
    (d.sources.map fun s => ⟨s.1, s.2.assigned record⟩)
  rw [List.map_map, List.map_map] at single
  have rows := h.rows_eq
  rw [one, List.map_singleton] at rows
  have written : i = ⟨d.table, d.sources.map Prod.fst,
      [d.sources.map fun s => s.2.assigned record], []⟩ := by
    obtain ⟨table, columns, cells, back⟩ := i
    obtain rfl : table = d.table := h.table
    obtain rfl : columns = d.sources.map Prod.fst := h.columns
    obtain rfl : back = d.returning := h.returning
    obtain rfl := rows
    rw [returning]
  rw [written, ← single]
  rfl

namespace MultiInsertDraft

/-- An insert of several rows is refused without records, and then without columns. Any other one
has a row for each record and in it a cell for each source. If the keys of its values are distinct,
its rows are written in this order and its values numbered in this order; without columns that come
back, the rows of more records are put behind a `, `. The insert of one record is rendered as the
insert of one row is. -/
theorem rendered_row_by_row (d : MultiInsertDraft ρ) (config : Config) (scope : Scope)
    (start : Progress) :
    (d.build = .error (.missing .records) ↔ d.records = []) ∧
    (d.build = .error (.missing .insertMappings) ↔ d.records ≠ [] ∧ d.sources = []) ∧
    (d.records ≠ [] → d.sources ≠ [] → ∃ i, d.build = .ok i ∧ i.WrittenBy d ∧
      ((keysFrom config start.next (d.records.flatMap (recordHoles d.sources))).Nodup →
        ∃ f stop, (renderMultiInsert config scope i).run start = .ok (f, stop) ∧
          d.RenderedByRow config start.next f stop.next ∧
          ∀ xs ys, d.records = xs ++ ys → xs ≠ [] → ys ≠ [] → d.returning = [] →
            ∃ ix iy, { d with records := xs }.build = .ok ix ∧
              { d with records := ys }.build = .ok iy ∧
              ∃ fx mid fy last, (renderMultiInsert config scope ix).run start = .ok (fx, mid) ∧
                (renderMultiInsert config scope iy).run mid = .ok (fy, last) ∧
                d.Continues f fx fy ∧ last.next = stop.next) ∧
      ∀ record, d.records = [record] → d.returning = [] → renderMultiInsert config scope i =
        renderInsert config scope
          ⟨d.table, d.sources.map fun s => ⟨s.1, s.2.assigned record⟩⟩) := by
  refine ⟨build_eq_missing_records_iff, build_eq_missing_mappings_iff, ?_⟩
  intro records sources
  obtain ⟨i, built, written⟩ := build_eq_ok records sources
  refine ⟨i, built, written, ?_, ?_⟩
  · intro distinct
    obtain ⟨f, stop, run, entries, byRow⟩ := written.renders scope distinct
    refine ⟨f, stop, run, byRow, ?_⟩
    intro xs ys all some more returning
    obtain ⟨ix, builtFirst, first⟩ := build_eq_ok (d := { d with records := xs }) some sources
    obtain ⟨iy, builtSecond, second⟩ := build_eq_ok (d := { d with records := ys }) more sources
    exact ⟨ix, iy, builtFirst, builtSecond,
      byRow.append scope first second entries all some more returning distinct⟩
  · intro record one returning
    exact written.renderMultiInsert_eq config scope one returning

/-- An insert of a name, of a default and of an age for each of two persons. -/
def personsDraft : MultiInsertDraft (String × Int64) where
  records := [("Ada", 36), ("Alan", 41)]
  table := ⟨0, "person"⟩
  sources :=
    [(⟨⟨0, "person"⟩, "name", .text, none, none⟩, .property fun p => .text p.1),
      (⟨⟨0, "person"⟩, "since", .date, none, none⟩, .constant "current_date"),
      (⟨⟨0, "person"⟩, "age", .integer, none, none⟩, .property fun p => .int p.2)]

theorem personsDraft_rendered : ∃ i f stop, personsDraft.build = .ok i ∧
    (renderMultiInsert {} .empty i).run {} = .ok (f, stop) ∧
    f.text = "insert into person (name, since, age) values " ++
      "($1, current_date, $2), ($3, current_date, $4)" ∧
    f.parameters.entries[1 * 2 + 1]? = some ("p4", .int 41) := by
  obtain ⟨-, -, rendered⟩ := rendered_row_by_row personsDraft {} .empty {}
  obtain ⟨i, built, -, renders, -⟩ := rendered (by simp [personsDraft]) (by simp [personsDraft])
  obtain ⟨f, stop, run, byRow, -⟩ := renders (by decide)
  exact ⟨i, f, stop, built, run, byRow.text.trans (by decide), byRow.entry 1 1 _ _ rfl rfl⟩

end MultiInsertDraft

end BoundSql
