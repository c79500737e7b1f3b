import BoundSql.Draft.Modification
import BoundSql.Proofs.Numbering
import Mathlib.Data.List.Forall2

/-!
# Settings whose value may be absent

The columns of an insert or update are set call by call, and a call whose value is absent may leave
its column out. The model has an assignment for each other call. From there on names and values go
separate ways: an insert lists the names first and the values behind them, and only a value that is
bound takes a number. `SetCall.cells` pairs each name with what is written for it, and both
statements are read off these pairs.
-/

namespace BoundSql

open Rendering Template

namespace Setting

/-- The value is absent, and so is the column. -/
def isLeftOut : Setting → Bool
  | .valueWhenPresent none => true
  | _ => false

/-- What a setting that is not left out sets its column to. -/
inductive Sets : Setting → Assigned → Prop where
  | null : Sets .null .null
  | constant (text : String) : Sets (.constant text) (.constant text)
  | stringConstant (text : String) : Sets (.stringConstant text) (.stringConstant text)
  | value (v : Value) : Sets (.value v) (.value v)
  | column (other : Column) : Sets (.column other) (.column other)
  | orNull : Sets (.valueOrNull none) .null
  | orNullValue (v : Value) : Sets (.valueOrNull (some v)) (.value v)
  | whenPresent (v : Value) : Sets (.valueWhenPresent (some v)) (.value v)

def bound? : Setting → Option Value
  | .value v => some v
  | .valueOrNull v => v
  | .valueWhenPresent v => v
  | _ => none

/-- What is written for a column; a value shows the placeholder of number `n`. -/
def text (config : Config) (scope : Scope) (n : Nat) (column : Column) (s : Setting) : String :=
  match s.bound?, s with
  | some v, _ => Hole.placeholder config n ⟨some column, v⟩
  | none, .constant text => text
  | none, .stringConstant text => Text.literal text
  | none, .column other => other.qualified scope
  | none, .valueWhenPresent _ => ""
  | none, _ => "null"

theorem isLeftOut_iff {s : Setting} : s.isLeftOut ↔ s = .valueWhenPresent none := by
  rcases s with _ | _ | _ | _ | _ | _ | _ | _ <;> simp [isLeftOut]

theorem assigned?_eq_none_iff {s : Setting} : s.assigned? = none ↔ s.isLeftOut := by
  rcases s with _ | _ | _ | _ | _ | (_ | _) | (_ | _) <;> simp [assigned?, isLeftOut]

theorem sets_of_assigned? {s : Setting} {a : Assigned} (h : s.assigned? = some a) : s.Sets a := by
  rcases s with _ | _ | _ | _ | _ | (_ | _) | (_ | _) <;> cases h <;> constructor

section Sets

variable {s : Setting} {a : Assigned} (h : s.Sets a) (column : Column)

include h

theorem Sets.holes_eq : assignedHoles column a = (s.bound?.map (⟨some column, ·⟩)).toList := by
  cases h <;> rfl

theorem Sets.fill_eq (config : Config) (scope : Scope) (n : Nat) :
    (assignedTemplate scope column a).fill config n = s.text config scope n column := by
  cases h <;> simp [assignedTemplate, ofText, fill_hole, text, bound?]

end Sets

end Setting

structure SetCall where
  column : Column
  setting : Setting

namespace SetCall

/-- The calls whose columns are not left out. -/
def surviving (calls : List SetCall) : List SetCall :=
  calls.filter fun c => !c.setting.isLeftOut

def Makes (c : SetCall) (a : Assignment) : Prop :=
  a.column = c.column ∧ c.setting.Sets a.value

def bound (c : SetCall) : List Hole :=
  (c.setting.bound?.map (⟨some c.column, ·⟩)).toList

/-- Each column with what is written for it, the values numbered from `n` on. -/
def cells (config : Config) (scope : Scope) : Nat → List SetCall → List (String × String)
  | _, [] => []
  | n, c :: rest => (c.column.name, c.setting.text config scope n c.column) ::
      cells config scope (n + c.bound.length) rest

/-! ## What is kept of the calls -/

def assignments (calls : List SetCall) : List Assignment :=
  calls.filterMap fun c => c.setting.assigned?.map (⟨c.column, ·⟩)

theorem assignments_cons_leftOut {c : SetCall} (h : c.setting.isLeftOut) (calls : List SetCall) :
    assignments (c :: calls) = assignments calls := by
  rw [assignments, List.filterMap_cons_none]
  · rfl
  · rw [Setting.assigned?_eq_none_iff.mpr h, Option.map_none]

theorem exists_assignments_cons {c : SetCall} (h : ¬ c.setting.isLeftOut)
    (calls : List SetCall) :
    ∃ a, c.Makes a ∧ assignments (c :: calls) = a :: assignments calls := by
  obtain ⟨a, assigned⟩ := Option.ne_none_iff_exists'.mp (mt Setting.assigned?_eq_none_iff.mp h)
  refine ⟨⟨c.column, a⟩, ⟨rfl, Setting.sets_of_assigned? assigned⟩, ?_⟩
  rw [assignments, List.filterMap_cons_some]
  · rfl
  · rw [assigned, Option.map_some]

theorem surviving_cons_leftOut {c : SetCall} (h : c.setting.isLeftOut) (calls : List SetCall) :
    surviving (c :: calls) = surviving calls :=
  List.filter_cons_of_neg (by simpa using h)

theorem surviving_cons {c : SetCall} (h : ¬ c.setting.isLeftOut) (calls : List SetCall) :
    surviving (c :: calls) = c :: surviving calls :=
  List.filter_cons_of_pos (by simpa using h)

/-- The assignments are those of the surviving calls, one for each. -/
theorem forall₂_assignments : ∀ calls : List SetCall,
    List.Forall₂ Makes (surviving calls) (assignments calls)
  | [] => .nil
  | c :: calls => by
    have rest := forall₂_assignments calls
    by_cases h : c.setting.isLeftOut
    · rw [surviving_cons_leftOut h, assignments_cons_leftOut h]
      exact rest
    · obtain ⟨a, makes, eq⟩ := exists_assignments_cons h calls
      rw [surviving_cons h, eq]
      exact .cons makes rest

theorem assignments_surviving (calls : List SetCall) :
    assignments (surviving calls) = assignments calls := by
  rw [assignments, surviving, List.filterMap_filter]
  refine List.filterMap_congr fun c _ => ?_
  by_cases h : c.setting.isLeftOut
  · simp [h, Setting.assigned?_eq_none_iff.mpr h]
  · simp [h]

theorem assignments_eq_nil_iff {calls : List SetCall} :
    assignments calls = [] ↔ ∀ c ∈ calls, c.setting = .valueWhenPresent none := by
  simp only [assignments, List.filterMap_eq_nil_iff, Option.map_eq_none_iff,
    Setting.assigned?_eq_none_iff, Setting.isLeftOut_iff]

theorem setColumn_append (front : List Assignment) (c : SetCall) (calls : List SetCall) :
    setColumn front c.column c.setting ++ assignments calls =
      front ++ assignments (c :: calls) := by
  rw [setColumn, assignments, assignments, List.filterMap_cons]
  rcases c.setting.assigned? with _ | a
  · rfl
  · exact (List.append_cons _ _ _).symm

/-! ## What is written of the assignments -/

section Written

variable {calls : List SetCall} {kept : List Assignment} (h : List.Forall₂ Makes calls kept)

include h

theorem flatMap_assignedHoles :
    (kept.flatMap fun a => assignedHoles a.column a.value) = calls.flatMap bound := by
  induction h with
  | nil => rfl
  | cons makes _ ih =>
    obtain ⟨column, sets⟩ := makes
    rw [List.flatMap_cons, List.flatMap_cons, ih, column, sets.holes_eq, bound]

theorem fillAll_values (config : Config) (scope : Scope) (n : Nat) :
    fillAll config n (kept.map fun a => assignedTemplate scope a.column a.value) =
      (cells config scope n calls).map Prod.snd := by
  induction h generalizing n with
  | nil => rfl
  | cons makes _ ih =>
    obtain ⟨column, sets⟩ := makes
    rw [List.map_cons, fillAll, ih, holes_assignedTemplate, column, sets.fill_eq, sets.holes_eq]
    rfl

theorem map_name (config : Config) (scope : Scope) (n : Nat) :
    kept.map (fun a => a.column.name) = (cells config scope n calls).map Prod.fst := by
  induction h generalizing n with
  | nil => rfl
  | cons makes _ ih =>
    rw [List.map_cons, ih, makes.1]
    rfl

theorem fillAll_assignments (config : Config) (scope : Scope) (n : Nat) :
    fillAll config n (kept.map (Assignment.template scope)) =
      (cells config scope n calls).map fun cell => cell.1 ++ " = " ++ cell.2 := by
  induction h generalizing n with
  | nil => rfl
  | cons makes _ ih =>
    obtain ⟨column, sets⟩ := makes
    rw [List.map_cons, fillAll, ih, Assignment.template, fill_text, holes_text,
      holes_assignedTemplate, column, sets.fill_eq, sets.holes_eq]
    rfl

theorem holesOf_assignments (scope : Scope) :
    holesOf (kept.map (Assignment.template scope)) = calls.flatMap bound := by
  rw [← flatMap_assignedHoles h, holesOf, List.flatMap_map]
  simp only [Assignment.template, holes_text, holes_assignedTemplate]

end Written

end SetCall

open SetCall

/-! ## Drafts -/

namespace InsertDraft

def setAll (d : InsertDraft) (calls : List SetCall) : InsertDraft :=
  calls.foldl (fun d c => d.set c.column c.setting) d

theorem setAll_eq : ∀ (d : InsertDraft) (calls : List SetCall),
    d.setAll calls = ⟨d.table, d.assignments ++ SetCall.assignments calls⟩
  | d, [] => by rw [SetCall.assignments, List.filterMap_nil, List.append_nil]; rfl
  | d, c :: calls => by
    have rest := setAll_eq (d.set c.column c.setting) calls
    exact rest.trans (congrArg (mk d.table) (setColumn_append d.assignments c calls))

end InsertDraft

namespace UpdateDraft

def setAll (d : UpdateDraft) (calls : List SetCall) : UpdateDraft :=
  calls.foldl (fun d c => d.set c.column c.setting) d

theorem setAll_eq : ∀ (d : UpdateDraft) (calls : List SetCall),
    d.setAll calls = ⟨d.table, d.assignments ++ SetCall.assignments calls⟩
  | d, [] => by rw [SetCall.assignments, List.filterMap_nil, List.append_nil]; rfl
  | d, c :: calls => by
    have rest := setAll_eq (d.set c.column c.setting) calls
    exact rest.trans (congrArg (mk d.table) (setColumn_append d.assignments c calls))

end UpdateDraft

def Insert.ofCalls (table : Table) (calls : List SetCall) : Except StatementError Insert :=
  (InsertDraft.setAll ⟨table, []⟩ calls).build

def Update.ofCalls (table : Table) (calls : List SetCall) (clause : WhereDraft) :
    Except StatementError Update :=
  (UpdateDraft.setAll ⟨table, []⟩ calls).build clause

theorem Insert.ofCalls_eq (table : Table) (calls : List SetCall) :
    Insert.ofCalls table calls = if (SetCall.assignments calls).isEmpty then
      .error (.missing .insertMappings) else .ok ⟨table, SetCall.assignments calls⟩ := by
  rw [Insert.ofCalls, InsertDraft.setAll_eq, List.nil_append, InsertDraft.build]

theorem Update.ofCalls_eq (table : Table) (calls : List SetCall) (clause : WhereDraft) :
    Update.ofCalls table calls clause = if (SetCall.assignments calls).isEmpty then
      .error (.missing .setClause) else
        .ok ⟨table, SetCall.assignments calls, clause.criteria⟩ := by
  rw [Update.ofCalls, UpdateDraft.setAll_eq, List.nil_append, UpdateDraft.build]

theorem refused_iff {α : Type} {missing e : StatementError} {calls : List SetCall} {model : α} :
    (if (SetCall.assignments calls).isEmpty then .error missing else .ok model) =
        (.error e : Except StatementError α) ↔
      e = missing ∧ ∀ c ∈ calls, c.setting = .valueWhenPresent none := by
  rw [← assignments_eq_nil_iff, ← List.isEmpty_iff]
  by_cases none : (SetCall.assignments calls).isEmpty
  · rw [if_pos none, Except.error.injEq, eq_comm]
    exact ⟨fun h => ⟨h, none⟩, And.left⟩
  · rw [if_neg none]
    exact ⟨fun h => (nomatch h), fun h => absurd h.2 none⟩

/-! ## What is rendered -/

/-- The insert has an assignment for each surviving call, in call order. -/
structure Insert.Keeps (i : Insert) (table : Table) (calls : List SetCall) : Prop where
  table : i.table = table
  assignments : List.Forall₂ Makes (surviving calls) i.assignments

/-- The update has an assignment for each surviving call, in call order. -/
structure Update.Keeps (u : Update) (table : Table) (calls : List SetCall)
    (clause : WhereDraft) : Prop where
  table : u.table = table
  assignments : List.Forall₂ Makes (surviving calls) u.assignments
  criteria : u.criteria = clause.criteria

/-- The `where` clause behind an update; its values are numbered from `n` on. -/
def clauseText (config : Config) (scope : Scope) (n : Nat) (criteria : List Criterion) : String :=
  match whereClause (criteriaTemplates scope criteria) with
  | none => ""
  | some clause => " " ++ clause.fill config n

/-- The names of the cells as one list and their values as another. -/
def insertText (table : Table) (cells : List (String × String)) : String :=
  "insert into " ++ table.name ++ " (" ++ String.intercalate ", " (cells.map Prod.fst) ++
    ") values (" ++ String.intercalate ", " (cells.map Prod.snd) ++ ")"

/-- The cells one behind the other, each name with its value, and the clause. -/
def updateText (table : Table) (cells : List (String × String)) (clause : String) : String :=
  "update " ++ table.name ++ " set " ++
    String.intercalate ", " (cells.map fun cell => cell.1 ++ " = " ++ cell.2) ++ clause

/-- The rendering succeeds unless two of the keys are equal, and every result of it is the text with
the values numbered from `start` on. -/
structure ShowsFrom (config : Config) (start : Progress) (m : Rendering Fragment)
    (values : List Hole) (text : String) : Prop where
  succeeds : (∃ f stop, m.run start = .ok (f, stop)) ↔ (keysFrom config start.next values).Nodup
  shown : ∀ f stop, m.run start = .ok (f, stop) → f.text = text ∧
    f.parameters.entries = entriesFrom config start.next values ∧
    stop.next = start.next + values.length

theorem Rendering.Renders.showsFrom {config : Config} {t : Template} {m : Rendering Fragment}
    (h : Renders config t m) (start : Progress) :
    ShowsFrom config start m t.holes (t.fill config start.next) where
  succeeds := by
    constructor
    · rintro ⟨f, stop, run⟩
      exact (h.ok run).1.nodup
    · intro distinct
      obtain ⟨f, stop, run, -⟩ := h.exists_ok distinct
      exact ⟨f, stop, run⟩
  shown f stop run := by
    obtain ⟨fills, next⟩ := h.ok run
    exact ⟨fills.text, fills.entries, next⟩

variable {table : Table} {calls : List SetCall}

theorem Insert.Keeps.holes {i : Insert} (h : i.Keeps table calls) :
    (Statement.insert i).holes = (surviving calls).flatMap bound :=
  flatMap_assignedHoles h.assignments

theorem Update.Keeps.holes {u : Update} {clause : WhereDraft} (h : u.Keeps table calls clause) :
    (Statement.update u).holes =
      (surviving calls).flatMap bound ++ criteriaHoles clause.criteria := by
  rw [Statement.holes, flatMap_assignedHoles h.assignments, h.criteria]

theorem fill_join_clause (config : Config) (scope : Scope) (n : Nat) (t : Template)
    (criteria : List Criterion) :
    fill config n (join " " (t :: (whereClause (criteriaTemplates scope criteria)).toList)) =
      fill config n t ++ clauseText config scope (n + t.holes.length) criteria := by
  rw [clauseText]
  rcases whereClause (criteriaTemplates scope criteria) with _ | clause
  · rw [fill_join, String.append_empty]
    rfl
  · rw [fill_join, ← String.append_assoc]
    rfl

theorem Insert.Keeps.showsFrom {i : Insert} (h : i.Keeps table calls) (config : Config)
    (scope : Scope) (start : Progress) :
    ShowsFrom config start (renderInsert config scope i) ((surviving calls).flatMap bound)
      (insertText table (cells config scope start.next (surviving calls))) := by
  have shows : ShowsFrom config start (renderInsert config scope i) _ _ :=
    (renderInsert_renders scope i).showsFrom start
  have text : fill config start.next ((Statement.insert i).template scope) =
      insertText table (cells config scope start.next (surviving calls)) := by
    have names := map_name h.assignments config scope start.next
    rw [Statement.template, fill_text, fill_between, fill_join, fillAll_values h.assignments]
    unfold insertText insertHead
    rw [← names, h.table, columnList, List.map_map]
    simp only [String.append_assoc]
    rfl
  rw [Statement.holes_template, h.holes, text] at shows
  exact shows

theorem Update.Keeps.showsFrom {u : Update} {clause : WhereDraft} (h : u.Keeps table calls clause)
    (config : Config) (scope : Scope) (start : Progress) :
    ShowsFrom config start (renderUpdate config scope u)
      ((surviving calls).flatMap bound ++ criteriaHoles clause.criteria)
      (updateText table (cells config scope start.next (surviving calls))
        (clauseText config scope (start.next + ((surviving calls).flatMap bound).length)
          clause.criteria)) := by
  have shows : ShowsFrom config start (renderUpdate config scope u) _ _ :=
    (renderUpdate_renders scope u).showsFrom start
  have text : fill config start.next ((Statement.update u).template scope) = updateText table
      (cells config scope start.next (surviving calls)) (clauseText config scope
        (start.next + ((surviving calls).flatMap bound).length) clause.criteria) := by
    have assignments := fillAll_assignments h.assignments config scope start.next
    rw [Statement.template, fill_join_clause, fill_text, fill_join, assignments, h.table,
      h.criteria, holes_text, holes_join, holesOf_assignments h.assignments, updateText]
  rw [Statement.holes_template, h.holes, text] at shows
  exact shows

/-- An insert or update is refused exactly if every call leaves its column out, whatever the clause.
Otherwise it has an assignment for each surviving call, in call order, and the calls that are left
out make no difference. The insert lists the names and the values of the same cells, and the update
writes the cells one by one; what is bound are the values of the surviving calls, numbered in call
order. There is no text only if two keys are equal. -/
theorem settings_aligned (table : Table) (calls : List SetCall) (clause : WhereDraft)
    (config : Config) (scope : Scope) (start : Progress) :
    (∀ e, Insert.ofCalls table calls = .error e ↔
      e = .missing .insertMappings ∧ ∀ c ∈ calls, c.setting = .valueWhenPresent none) ∧
    (∀ e, Update.ofCalls table calls clause = .error e ↔
      e = .missing .setClause ∧ ∀ c ∈ calls, c.setting = .valueWhenPresent none) ∧
    Insert.ofCalls table (surviving calls) = Insert.ofCalls table calls ∧
    Update.ofCalls table (surviving calls) clause = Update.ofCalls table calls clause ∧
    ((∃ c ∈ calls, c.setting ≠ .valueWhenPresent none) →
      ∃ i u, Insert.ofCalls table calls = .ok i ∧ Update.ofCalls table calls clause = .ok u ∧
        i.Keeps table calls ∧ u.Keeps table calls clause ∧
        ShowsFrom config start (renderInsert config scope i) ((surviving calls).flatMap bound)
          (insertText table (cells config scope start.next (surviving calls))) ∧
        ShowsFrom config start (renderUpdate config scope u)
          ((surviving calls).flatMap bound ++ criteriaHoles clause.criteria)
          (updateText table (cells config scope start.next (surviving calls))
            (clauseText config scope (start.next + ((surviving calls).flatMap bound).length)
              clause.criteria))) := by
  refine ⟨?_, ?_, ?_, ?_, ?_⟩
  · intro e
    rw [Insert.ofCalls_eq, refused_iff]
  · intro e
    rw [Update.ofCalls_eq, refused_iff]
  · rw [Insert.ofCalls_eq, Insert.ofCalls_eq, assignments_surviving]
  · rw [Update.ofCalls_eq, Update.ofCalls_eq, assignments_surviving]
  · rintro ⟨c, mem, kept⟩
    have some : ¬ (SetCall.assignments calls).isEmpty := by
      rw [List.isEmpty_iff, assignments_eq_nil_iff]
      exact fun all => kept (all c mem)
    rw [Insert.ofCalls_eq, Update.ofCalls_eq, if_neg some, if_neg some]
    have makes := forall₂_assignments calls
    have insert : Insert.Keeps ⟨table, SetCall.assignments calls⟩ table calls := ⟨rfl, makes⟩
    have update : Update.Keeps ⟨table, SetCall.assignments calls, clause.criteria⟩ table calls
        clause := ⟨rfl, makes, rfl⟩
    exact ⟨_, _, rfl, rfl, insert, update, insert.showsFrom config scope start,
      update.showsFrom config scope start⟩

/-- A name, an age that is left out, a nickname that is set to null and the current date. -/
def personSettings : List SetCall :=
  [⟨⟨⟨0, "person"⟩, "name", .text, none, none⟩, .value (.text "Ada")⟩,
    ⟨⟨⟨0, "person"⟩, "age", .integer, none, none⟩, .valueWhenPresent none⟩,
    ⟨⟨⟨0, "person"⟩, "nickname", .text, none, none⟩, .valueOrNull none⟩,
    ⟨⟨⟨0, "person"⟩, "since", .date, none, none⟩, .constant "current_date"⟩]

theorem personSettings_aligned : ∃ i u f g stop last,
    Insert.ofCalls ⟨0, "person"⟩ personSettings = .ok i ∧
    Update.ofCalls ⟨0, "person"⟩ personSettings .empty = .ok u ∧
    (renderInsert {} .empty i).run {} = .ok (f, stop) ∧
    (renderUpdate {} .empty u).run {} = .ok (g, last) ∧
    f.text = "insert into person (name, nickname, since) values ($1, null, current_date)" ∧
    g.text = "update person set name = $1, nickname = null, since = current_date" ∧
    f.parameters.entries = [("p1", .text "Ada")] := by
  obtain ⟨-, -, -, -, aligned⟩ := settings_aligned ⟨0, "person"⟩ personSettings .empty {} .empty {}
  obtain ⟨i, u, builtInsert, builtUpdate, -, -, insert, update⟩ :=
    aligned ⟨_, List.mem_cons_self, nofun⟩
  obtain ⟨f, stop, runInsert⟩ := insert.succeeds.mpr (by decide)
  obtain ⟨g, last, runUpdate⟩ := update.succeeds.mpr (by decide)
  obtain ⟨textInsert, entries, -⟩ := insert.shown f stop runInsert
  obtain ⟨textUpdate, -, -⟩ := update.shown g last runUpdate
  exact ⟨i, u, f, g, stop, last, builtInsert, builtUpdate, runInsert, runUpdate,
    textInsert.trans (by decide), textUpdate.trans (by decide), entries⟩

end BoundSql
