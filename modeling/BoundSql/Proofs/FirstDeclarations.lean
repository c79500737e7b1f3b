import BoundSql.Rendering.Basic
import BoundSql.Schema.Registry
import Mathlib.Data.Fin.Tuple.Basic
import Mathlib.Data.List.Forall2
import Mathlib.Data.List.Nodup

/-!
# First declarations

A `Schema.History` is a sequence of calls: tables are made, their handles are cloned, and columns
are declared through any of the handles. `History.run` makes the calls, and `History.Records` says
what they have come to, call by call. Two handles are of one table exactly if they go back to the
same call that made a table. A table lists every name that was declared through any of its handles
with the type of its first declaration, and whatever is declared elsewhere leaves the list as it is.
The columns that were given out agree with the lists as they are in the end, so values that are
bound to columns of one name in one table are bound with one type.
-/

namespace BoundSql

/-- What a table lists after declarations: each name once, with the type of its first declaration.
-/
structure FirstDeclared (declared listed : List ColumnSpec) : Prop where
  /-- All names that were declared, in the order of their first declarations. -/
  names : listed.map ColumnSpec.name = (declared.map ColumnSpec.name).eraseDups
  once : (listed.map ColumnSpec.name).Nodup
  first : ∀ spec ∈ listed, declared.find? (fun d => d.name == spec.name) = some spec

theorem eraseDups_concat {α : Type} [DecidableEq α] (l : List α) (a : α) :
    (l ++ [a]).eraseDups = if a ∈ l then l.eraseDups else l.eraseDups ++ [a] := by
  rw [List.eraseDups_append]
  split <;> simp_all [List.removeAll, List.eraseDups_cons]

namespace FirstDeclared

variable {declared listed : List ColumnSpec} {spec other : ColumnSpec}

theorem nil : FirstDeclared [] [] :=
  ⟨rfl, List.nodup_nil, by simp⟩

theorem mem_names (h : FirstDeclared declared listed) {name : String} :
    name ∈ listed.map ColumnSpec.name ↔ name ∈ declared.map ColumnSpec.name := by
  rw [h.names, List.mem_eraseDups]

/-- Only one type is listed under a name. -/
theorem eq_of_name (h : FirstDeclared declared listed) (mem : spec ∈ listed)
    (mem' : other ∈ listed) (same : spec.name = other.name) : spec = other := by
  have found := h.first spec mem
  rw [same, h.first other mem'] at found
  exact (Option.some.inj found).symm

/-- A further declaration finds what a name was first declared as. -/
theorem first_append (h : FirstDeclared declared listed) (mem : other ∈ listed) :
    (declared ++ [spec]).find? (fun d => d.name == other.name) = some other := by
  rw [List.find?_append, h.first other mem, Option.some_or]

/-- A name that is declared again is not listed again. -/
theorem again (h : FirstDeclared declared listed) (known : spec.name ∈ listed.map ColumnSpec.name) :
    FirstDeclared (declared ++ [spec]) listed where
  names := by
    rw [h.names, List.map_append, List.map_singleton, eraseDups_concat,
      if_pos (h.mem_names.mp known)]
  once := h.once
  first _ mem := h.first_append mem

/-- A name that was not declared before is listed behind the others. -/
theorem fresh (h : FirstDeclared declared listed) (fresh : spec.name ∉ listed.map ColumnSpec.name) :
    FirstDeclared (declared ++ [spec]) (listed ++ [spec]) where
  names := by
    rw [List.map_append, List.map_append, List.map_singleton, eraseDups_concat,
      if_neg (mt h.mem_names.mpr fresh), h.names]
  once := by
    rw [List.map_append, List.map_singleton, ← List.concat_eq_append]
    exact h.once.concat fresh
  first := by
    intro other mem
    rcases List.mem_append.mp mem with mem | mem
    · exact h.first_append mem
    · obtain rfl := List.mem_singleton.mp mem
      have absent : declared.find? (fun d => d.name == other.name) = none := by
        have absent := mt h.mem_names.mpr fresh
        simpa [List.find?_eq_none] using absent
      rw [List.find?_append, absent]
      simp

end FirstDeclared

namespace Schema

/-- A sequence of calls that gives out `n` handles of tables, numbered in their order. -/
inductive History : Nat → Type where
  | start : History 0
  | newTable {n : Nat} (before : History n) (name : String) : History (n + 1)
  /-- Another handle of the table that the given one is of. -/
  | clone {n : Nat} (before : History n) (handle : Fin n) : History (n + 1)
  | column {n : Nat} (before : History n) (handle : Fin n) (name : String) (type : DataType) :
      History n

/-- What calls have come to when they have given out `n` handles of tables. -/
structure Session (n : Nat) where
  schema : Schema
  tables : Fin n → Table
  /-- The columns that were given out, in their order. -/
  columns : List Column

namespace Session

variable {n : Nat}

def newTable (s : Session n) (name : String) : Session (n + 1) :=
  let (table, schema) := s.schema.newTable name
  ⟨schema, Fin.snoc s.tables table, s.columns⟩

def clone (s : Session n) (handle : Fin n) : Session (n + 1) :=
  ⟨s.schema, Fin.snoc s.tables (s.tables handle), s.columns⟩

def column (s : Session n) (handle : Fin n) (name : String) (type : DataType) : Session n :=
  let (column, schema) := s.schema.column (s.tables handle) name type
  ⟨schema, s.tables, s.columns ++ [column]⟩

/-- What the table of a handle lists. -/
def listed (s : Session n) (handle : Fin n) : List ColumnSpec := s.schema.columns (s.tables handle)

/-- A column that was given out, under any alias and with any strategy of its own. -/
def GivenOut (s : Session n) (c : Column) : Prop :=
  ∃ given ∈ s.columns, ∃ asName strategy, c = { given with asName := asName, strategy := strategy }

/-- The column is what a declaration through a handle asks for, but for its type: that is the one
which the handle's table lists. -/
structure Answers (s : Session n) (call : Fin n × ColumnSpec) (c : Column) : Prop where
  table : c.table = s.tables call.1
  name : c.name = call.2.name
  listed : ⟨c.name, c.dataType⟩ ∈ s.listed call.1

/-- A further handle leaves what declarations have given out. -/
theorem answers_castSucc {s : Session n} {wider : Session (n + 1)}
    (tables : ∀ i, wider.tables i.castSucc = s.tables i)
    (listed : ∀ i, wider.listed i.castSucc = s.listed i) {calls : List (Fin n × ColumnSpec)}
    {columns : List Column} (answers : List.Forall₂ s.Answers calls columns) :
    List.Forall₂ wider.Answers (calls.map (Prod.map Fin.castSucc id)) columns := by
  rw [List.forall₂_map_left_iff]
  refine answers.imp fun call c answer => ?_
  refine ⟨?_, answer.name, ?_⟩
  · rw [answer.table]
    exact (tables call.1).symm
  · rw [Prod.map_fst, listed]
    exact answer.listed

end Session

namespace History

/-- Makes the calls, one after the other. -/
def run : {n : Nat} → History n → Session n
  | _, .start => ⟨.empty, Fin.elim0, []⟩
  | _, .newTable before name => before.run.newTable name
  | _, .clone before handle => before.run.clone handle
  | _, .column before handle name type => before.run.column handle name type

/-- For each handle the number of the handle that came with the making of its table. -/
def origin : {n : Nat} → History n → Fin n → Nat
  | _, .start => Fin.elim0
  | n + 1, .newTable before _ => Fin.snoc before.origin n
  | _, .clone before handle => Fin.snoc before.origin (before.origin handle)
  | _, .column before _ _ _ => before.origin

/-- The declarations in order, each with the handle it went through and the type it asked for. -/
def declarations : {n : Nat} → History n → List (Fin n × ColumnSpec)
  | _, .start => []
  | _, .newTable before _ => before.declarations.map (Prod.map Fin.castSucc id)
  | _, .clone before _ => before.declarations.map (Prod.map Fin.castSucc id)
  | _, .column before handle name type => before.declarations ++ [(handle, ⟨name, type⟩)]

variable {n : Nat}

/-- The declarations through any of the handles of one table. -/
def declaredOn (h : History n) (origin : Nat) : List ColumnSpec :=
  (h.declarations.filter fun call => h.origin call.1 == origin).map Prod.snd

/-! ## What a call adds -/

section Calls

variable (before : History n) (handle i : Fin n) (name : String) (type : DataType)

@[simp]
theorem tables_newTable_castSucc :
    (before.newTable name).run.tables i.castSucc = before.run.tables i := by
  simp [run, Session.newTable]

@[simp]
theorem tables_newTable_last : (before.newTable name).run.tables (Fin.last n) =
    (before.run.schema.newTable name).1 := by
  simp [run, Session.newTable]

@[simp]
theorem tables_clone_castSucc :
    (before.clone handle).run.tables i.castSucc = before.run.tables i := by
  simp [run, Session.clone]

@[simp]
theorem tables_clone_last :
    (before.clone handle).run.tables (Fin.last n) = before.run.tables handle := by
  simp [run, Session.clone]

theorem listed_newTable_last : (before.newTable name).run.listed (Fin.last n) = [] := by
  rw [Session.listed, tables_newTable_last]
  exact columns_newTable before.run.schema name

theorem listed_clone_castSucc :
    (before.clone handle).run.listed i.castSucc = before.run.listed i := by
  rw [Session.listed, tables_clone_castSucc]
  rfl

theorem listed_clone_last :
    (before.clone handle).run.listed (Fin.last n) = before.run.listed handle := by
  rw [Session.listed, tables_clone_last]
  rfl

@[simp]
theorem origin_newTable_castSucc :
    (before.newTable name).origin i.castSucc = before.origin i := by
  simp [origin]

@[simp]
theorem origin_newTable_last : (before.newTable name).origin (Fin.last n) = n := by
  simp [origin]

@[simp]
theorem origin_clone_castSucc : (before.clone handle).origin i.castSucc = before.origin i := by
  simp [origin]

@[simp]
theorem origin_clone_last : (before.clone handle).origin (Fin.last n) = before.origin handle := by
  simp [origin]

theorem origin_lt : ∀ {n : Nat} (h : History n) (i : Fin n), h.origin i < n
  | _, .newTable before _, i => by
    refine Fin.lastCases ?_ (fun i => ?_) i
    · simp
    · simpa using Nat.lt_succ_of_lt (origin_lt before i)
  | _, .clone before handle, i => by
    refine Fin.lastCases ?_ (fun i => ?_) i
    · simpa using Nat.lt_succ_of_lt (origin_lt before handle)
    · simpa using Nat.lt_succ_of_lt (origin_lt before i)
  | _, .column before _ _ _, i => origin_lt before i

variable (origin : Nat)

theorem declaredOn_newTable :
    (before.newTable name).declaredOn origin = before.declaredOn origin := by
  simp [declaredOn, declarations, List.filter_map, Function.comp_def]

theorem declaredOn_clone :
    (before.clone handle).declaredOn origin = before.declaredOn origin := by
  simp [declaredOn, declarations, List.filter_map, Function.comp_def]

theorem declaredOn_column : (before.column handle name type).declaredOn origin =
    before.declaredOn origin ++ if before.origin handle = origin then [⟨name, type⟩] else [] := by
  rw [declaredOn, declarations, List.filter_append, List.map_append]
  split <;> simp_all [declaredOn, History.origin]

/-- Nothing was declared through a handle that is still to come. -/
theorem declaredOn_of_le (h : n ≤ origin) : before.declaredOn origin = [] := by
  have other : ∀ i : Fin n, before.origin i ≠ origin :=
    fun i same => Nat.not_le_of_lt (before.origin_lt i) (same ▸ h)
  simp [declaredOn, other]

end Calls

/-- What the calls of a history have come to. -/
structure Records (h : History n) : Prop where
  made : ∀ i, h.run.schema.Made (h.run.tables i)
  same : ∀ i j, (h.run.tables i).identity = (h.run.tables j).identity ↔ h.origin i = h.origin j
  listed : ∀ i, FirstDeclared (h.declaredOn (h.origin i)) (h.run.listed i)
  answers : List.Forall₂ h.run.Answers h.declarations h.run.columns

theorem records_start : start.Records :=
  ⟨fun i => i.elim0, fun i => i.elim0, fun i => i.elim0, .nil⟩

namespace Records

variable {before : History n}

theorem listed_newTable_castSucc (r : before.Records) (name : String) (i : Fin n) :
    (before.newTable name).run.listed i.castSucc = before.run.listed i := by
  rw [Session.listed, tables_newTable_castSucc]
  exact (r.made i).columns_newTable name

protected theorem newTable (r : before.Records) (name : String) :
    (before.newTable name).Records where
  made := by
    refine Fin.lastCases ?_ fun i => ?_
    · rw [tables_newTable_last]
      exact made_newTable before.run.schema name
    · rw [tables_newTable_castSucc]
      exact (r.made i).newTable name
  same := by
    -- both the identity and the number of the new handle are beyond all earlier ones
    have other (i : Fin n) := (r.made i).ne_newTable name
    have earlier (i : Fin n) := (before.origin_lt i).ne
    refine Fin.lastCases (Fin.lastCases ?_ fun j => ?_) fun i => Fin.lastCases ?_ fun j => ?_
    · simp
    · simp [(other j).symm, (earlier j).symm]
    · simp [other i, earlier i]
    · simpa using r.same i j
  listed := by
    refine Fin.lastCases ?_ fun i => ?_
    · rw [listed_newTable_last, declaredOn_newTable, origin_newTable_last,
        declaredOn_of_le _ _ le_rfl]
      exact .nil
    · rw [r.listed_newTable_castSucc, declaredOn_newTable, origin_newTable_castSucc]
      exact r.listed i
  answers := Session.answers_castSucc (tables_newTable_castSucc before · name)
    (r.listed_newTable_castSucc name) r.answers

protected theorem clone (r : before.Records) (handle : Fin n) :
    (before.clone handle).Records where
  made := by
    refine Fin.lastCases ?_ fun i => ?_
    · rw [tables_clone_last]
      exact r.made handle
    · rw [tables_clone_castSucc]
      exact r.made i
  same := by
    refine Fin.lastCases (Fin.lastCases ?_ fun j => ?_) fun i => Fin.lastCases ?_ fun j => ?_
    · simp
    · simpa using r.same handle j
    · simpa using r.same i handle
    · simpa using r.same i j
  listed := by
    refine Fin.lastCases ?_ fun i => ?_
    · rw [listed_clone_last, declaredOn_clone, origin_clone_last]
      exact r.listed handle
    · rw [listed_clone_castSucc, declaredOn_clone, origin_clone_castSucc]
      exact r.listed i
  answers := Session.answers_castSucc (tables_clone_castSucc before handle)
    (listed_clone_castSucc before handle) r.answers

/-- Handles of one table list the same. -/
theorem listed_congr {h : History n} (r : h.Records) {i j : Fin n}
    (same : h.origin i = h.origin j) :
    h.run.listed i = h.run.listed j :=
  columns_congr _ ((r.same i j).mpr same)

/-- What a declaration does to the lists and which column it gives out. -/
theorem column_cases (r : before.Records) (handle : Fin n) (name : String) (type : DataType) :
    (∃ first, ⟨name, first⟩ ∈ before.run.listed handle ∧
      (before.column handle name type).run.columns =
        before.run.columns ++ [⟨before.run.tables handle, name, first, none, none⟩] ∧
      ∀ i, (before.column handle name type).run.listed i = before.run.listed i) ∨
    (name ∉ (before.run.listed handle).map ColumnSpec.name ∧
      (before.column handle name type).run.columns =
        before.run.columns ++ [⟨before.run.tables handle, name, type, none, none⟩] ∧
      ∀ i, (before.column handle name type).run.listed i =
        if before.origin handle = before.origin i then before.run.listed i ++ [⟨name, type⟩]
        else before.run.listed i) := by
  rcases Schema.column_cases (r.made handle) name type with ⟨first, mem, same⟩ | ⟨fresh, given, all⟩
  · exact .inl ⟨first, mem, by simp [run, Session.column, same],
      fun i => by simp [run, Session.column, Session.listed, same]⟩
  · refine .inr ⟨fresh, by simp [run, Session.column, given], fun i => ?_⟩
    simp only [run, Session.column, Session.listed, all, r.same]

/-- A declaration leaves what is listed. -/
theorem listed_subset_column (r : before.Records) (handle i : Fin n) (name : String)
    (type : DataType) :
    before.run.listed i ⊆ (before.column handle name type).run.listed i := by
  intro spec mem
  obtain ⟨-, -, -, all⟩ | ⟨-, -, all⟩ := r.column_cases handle name type <;> rw [all]
  · exact mem
  · split
    · exact List.mem_append_left _ mem
    · exact mem

protected theorem column (r : before.Records) (handle : Fin n) (name : String) (type : DataType) :
    (before.column handle name type).Records where
  made i := (r.made i).column _ name type
  same := r.same
  listed i := by
    have origins : (before.column handle name type).origin = before.origin := rfl
    rw [origins, declaredOn_column]
    -- the declaration counts for the handles of one table, and for the others nothing is added
    obtain ⟨first, mem, -, all⟩ | ⟨fresh, -, all⟩ := r.column_cases handle name type <;>
      rw [all] <;> by_cases same : before.origin handle = before.origin i
    · rw [r.listed_congr same] at mem
      rw [if_pos same]
      exact (r.listed i).again (List.mem_map.mpr ⟨_, mem, rfl⟩)
    · rw [if_neg same, List.append_nil]
      exact r.listed i
    · rw [r.listed_congr same] at fresh
      rw [if_pos same, if_pos same]
      exact (r.listed i).fresh fresh
    · rw [if_neg same, if_neg same, List.append_nil]
      exact r.listed i
  answers := by
    -- what is listed stays listed, so the earlier columns still agree with the lists
    have earlier : List.Forall₂ (before.column handle name type).run.Answers before.declarations
        before.run.columns :=
      r.answers.imp fun call c given =>
        ⟨given.table, given.name, r.listed_subset_column handle call.1 name type given.listed⟩
    obtain ⟨first, mem, columns, all⟩ | ⟨-, columns, all⟩ := r.column_cases handle name type <;>
      rw [declarations, columns] <;> refine List.rel_append earlier (.cons ⟨rfl, rfl, ?_⟩ .nil)
    · rw [all]
      exact mem
    · rw [all, if_pos rfl]
      exact List.mem_append_right _ (List.mem_singleton_self _)

end Records

theorem records : ∀ {n : Nat} (h : History n), h.Records
  | _, .start => records_start
  | _, .newTable before name => (records before).newTable name
  | _, .clone before handle => (records before).clone handle
  | _, .column before handle name type => (records before).column handle name type

end History

/-! ## Columns that were given out -/

theorem exists_of_mem_right {α β : Type} {R : α → β → Prop} {b : β} :
    ∀ {l : List α} {u : List β}, List.Forall₂ R l u → b ∈ u → ∃ a ∈ l, R a b
  | _, _, .cons first rest, mem => by
    rcases List.mem_cons.mp mem with rfl | mem
    · exact ⟨_, List.mem_cons_self, first⟩
    · obtain ⟨a, mem, related⟩ := exists_of_mem_right rest mem
      exact ⟨a, List.mem_cons_of_mem _ mem, related⟩

variable {n : Nat} {h : History n} {c : Column} {i : Fin n} {spec : ColumnSpec}

/-- A column that was given out has the type which its table lists under its name. -/
theorem Session.GivenOut.dataType_eq (out : h.run.GivenOut c)
    (table : c.table.same (h.run.tables i) = true) (listed : spec ∈ h.run.listed i)
    (name : c.name = spec.name) : c.dataType = spec.dataType := by
  obtain ⟨given, mem, asName, strategy, rfl⟩ := out
  obtain ⟨call, -, answer⟩ := exists_of_mem_right h.records.answers mem
  have same : h.origin call.1 = h.origin i := by
    rw [← h.records.same, ← answer.table]
    exact Table.same_iff.mp table
  have own := answer.listed
  rw [h.records.listed_congr same] at own
  exact congrArg ColumnSpec.dataType ((h.records.listed i).eq_of_name own listed name)

end Schema

namespace Rendering

/-- Binding a value puts it under the key that the strategy gives and yields the placeholder that it
gives, for the number, the name and the type of the column. -/
theorem bindValue_run (config : Config) (column : Option Column) (value : Value)
    (into : Parameters) (start : Progress) :
    (bindValue config column value into).run start =
      (into.insert ((strategyOf config column).key (bindingOf config column start.next)) value).map
        fun after => (((strategyOf config column).placeholder
          (bindingOf config column start.next), after), { start with next := start.next + 1 }) := by
  rcases inserted : into.insert ((strategyOf config column).key
    (bindingOf config column start.next)) value with c | after <;>
  simp [bindValue, inserted, Except.map]

end Rendering

namespace Schema.History

/-- After any calls, handles are of the same table exactly if they are clones of one. Each table
lists what was declared through its handles, every name once and as it was declared first. Each
declaration has given out a column of the type that is listed in the end, and it leaves what other
tables list as it is. The placeholders of values that are bound to such columns show the type that
is listed. -/
theorem first_declarations_hold {n : Nat} (h : History n) :
    (∀ i j, (h.run.tables i).same (h.run.tables j) = true ↔ h.origin i = h.origin j) ∧
    (∀ i, FirstDeclared (h.declaredOn (h.origin i)) (h.run.listed i)) ∧
    List.Forall₂ h.run.Answers h.declarations h.run.columns ∧
    (∀ i j name type, h.origin i ≠ h.origin j →
      (h.column i name type).run.listed j = h.run.listed j) ∧
    ∀ i, ∀ spec ∈ h.run.listed i, ∀ c, h.run.GivenOut c →
      c.table.same (h.run.tables i) = true → c.name = spec.name →
      ∀ config value into start,
        let strategy := Rendering.strategyOf config (some c)
        let seen : Binding :=
          ⟨start.next, config.stem ++ toString start.next, some spec.dataType⟩
        (Rendering.bindValue config (some c) value into).run start =
          (into.insert (strategy.key seen) value).map fun after =>
            ((strategy.placeholder seen, after), { start with next := start.next + 1 }) := by
  have r := h.records
  refine ⟨fun i j => ?_, r.listed, r.answers, ?_, ?_⟩
  · rw [Table.same_iff, r.same]
  · intro i j name type other
    obtain ⟨-, -, -, all⟩ | ⟨-, -, all⟩ := r.column_cases i name type
    · exact all j
    · rw [all, if_neg other]
  · intro i spec listed c out table name config value into start
    rw [Rendering.bindValue_run, Rendering.bindingOf, Option.map_some,
      out.dataType_eq table listed name]

/-- Two tables of one name, the first with two handles. Its `id` is declared through both. -/
def twoPersons : History 3 :=
  start.newTable "person" |>.clone 0 |>.newTable "person" |>.column 0 "id" .bigInt
    |>.column 2 "id" .uuid |>.column 1 "id" .varchar

/-- What the second declaration of `id` gave out, with an alias and a strategy of its own. -/
def againId : Column := ⟨⟨0, "person"⟩, "id", .bigInt, some "key", some .myBatis⟩

theorem twoPersons_hold :
    FirstDeclared [⟨"id", .bigInt⟩, ⟨"id", .varchar⟩] (twoPersons.run.listed 1) ∧
    twoPersons.run.listed 1 = [⟨"id", .bigInt⟩] ∧
    (twoPersons.column 2 "name" .text).run.listed 1 = [⟨"id", .bigInt⟩] ∧
    ∃ after last, (Rendering.bindValue {} (some againId) .null .empty).run {} =
      .ok (("#\x7bparameters.p1,jdbcType=BIGINT\x7d", after), last) := by
  obtain ⟨-, listed, -, apart, bound⟩ := first_declarations_hold twoPersons
  have out : twoPersons.run.GivenOut againId :=
    ⟨_, .tail _ (.tail _ (.head _)), some "key", some .myBatis, rfl⟩
  have placed := bound 1 ⟨"id", .bigInt⟩ (by decide) againId out rfl rfl {} .null .empty {}
  exact ⟨listed 1, rfl, apart 2 1 "name" .text (by decide), _, _, placed.trans rfl⟩

end Schema.History

end BoundSql
