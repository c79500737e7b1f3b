import BoundSql.Json.Access
import BoundSql.Proofs.BindingSteps
import BoundSql.Proofs.JsonReading
import BoundSql.Proofs.Numbering
import BoundSql.Proofs.UntaggedValues
import BoundSql.Rendered

/-!
# Written statements are read back

A rendered statement is written as a JSON object, and its parameters as an object inside of it,
whose member names are the keys. Nothing but the kinds of the values is lost: the text is read back
as that very object, and because no two keys are equal, a reader that keeps the last of several
members of one name still finds every value.
-/

namespace BoundSql

open Rendering

/-! ## Values without floating-point numbers -/

namespace Json

theorem itemsAllFloats_iff {p : Decimal.Double → Bool} : ∀ {items : List Json},
    itemsAllFloats p items = true ↔ ∀ item ∈ items, item.allFloats p = true
  | [] => by simp [itemsAllFloats]
  | item :: items => by
    rw [itemsAllFloats, Bool.and_eq_true, itemsAllFloats_iff, List.forall_mem_cons]

theorem membersAllFloats_iff {p : Decimal.Double → Bool} : ∀ {members : List (String × Json)},
    membersAllFloats p members = true ↔ ∀ member ∈ members, member.2.allFloats p = true
  | [] => by simp [membersAllFloats]
  | (name, value) :: members => by
    rw [membersAllFloats, Bool.and_eq_true, membersAllFloats_iff, List.forall_mem_cons]

/-- With distinct names it makes no difference which of several members of one name counts. -/
theorem get?_object_eq_some_iff {members : List (String × Json)}
    (distinct : (members.map Prod.fst).Nodup) {name : String} {value : Json} :
    (object members).get? name = some value ↔ (name, value) ∈ members := by
  have backwards : (members.reverse.map Prod.fst).Nodup := by
    rw [List.map_reverse]
    exact List.nodup_reverse.mpr distinct
  rw [get?, Parameters.lookup_eq_some_iff_mem backwards, List.mem_reverse]

end Json

/-- The value is no floating-point number and holds none. -/
def Value.floatFree : Value → Bool
  | .float _ => false
  | .json j => j.floatFree
  | _ => true

theorem Value.floatFree_toJson {v : Value} (free : v.floatFree = true) :
    v.toJson.floatFree = true := by
  cases v with
  | float x => cases free
  | json j => exact free
  | bytes b =>
    refine Json.itemsAllFloats_iff.mpr ?_
    rintro _ mem
    obtain ⟨x, -, rfl⟩ := List.mem_map.mp mem
    rfl
  | _ => rfl

/-! ## The objects that are written -/

namespace Parameters

def members (p : Parameters) : List (String × Json) :=
  p.entries.map fun entry => (entry.1, entry.2.toJson)

theorem toJson_eq (p : Parameters) : p.toJson = .object p.members := rfl

theorem map_fst_members (p : Parameters) : p.members.map Prod.fst = p.keys := by
  rw [members, List.map_map]
  rfl

theorem map_snd_members (p : Parameters) : p.members.map Prod.snd = p.values.map Value.toJson := by
  rw [members, List.map_map, values, List.map_map]
  rfl

theorem nodup_members (p : Parameters) : (p.members.map Prod.fst).Nodup := by
  rw [map_fst_members]
  exact p.nodup_keys

theorem floatFree_toJson {p : Parameters} (free : ∀ v ∈ p.values, v.floatFree = true) :
    p.toJson.floatFree = true := by
  refine Json.membersAllFloats_iff.mpr ?_
  intro member mem
  obtain ⟨entry, bound, rfl⟩ := List.mem_map.mp mem
  exact Value.floatFree_toJson (free entry.2 (List.mem_map_of_mem bound))

end Parameters

namespace Rendered

def members (r : Rendered) : List (String × Json) :=
  [("sql", .text r.sql), ("parameters", r.parameters.toJson), ("kind", .text r.kind.text)] ++
    if r.generatedKeys = [] then []
    else [("generated_keys", .array (r.generatedKeys.map .text))]

theorem toJson_eq (r : Rendered) : r.toJson = .object r.members := by
  simp only [toJson, members, List.isEmpty_iff]

theorem map_fst_members (r : Rendered) : r.members.map Prod.fst =
    ["sql", "parameters", "kind"] ++ if r.generatedKeys = [] then [] else ["generated_keys"] := by
  rw [members, List.map_append]
  split <;> rfl

theorem nodup_members (r : Rendered) : (r.members.map Prod.fst).Nodup := by
  rw [map_fst_members]
  split <;> decide

theorem floatFree_toJson {r : Rendered} (free : ∀ v ∈ r.parameters.values, v.floatFree = true) :
    r.toJson.floatFree = true := by
  rw [toJson_eq]
  refine Json.membersAllFloats_iff.mpr ?_
  intro member mem
  rw [members, List.mem_append] at mem
  rcases mem with mem | mem
  · simp only [List.mem_cons, List.not_mem_nil, or_false] at mem
    rcases mem with rfl | rfl | rfl
    · rfl
    · exact Parameters.floatFree_toJson free
    · rfl
  · split at mem
    · cases mem
    · rw [List.mem_singleton.mp mem]
      refine Json.itemsAllFloats_iff.mpr ?_
      intro item key
      obtain ⟨name, -, rfl⟩ := List.mem_map.mp key
      rfl

theorem get?_generatedKeys (r : Rendered) : (Json.object r.members).get? "generated_keys" =
    if r.generatedKeys = [] then none else some (.array (r.generatedKeys.map .text)) := by
  rw [Json.get?, members]
  split <;> rfl

end Rendered

/-- The JSON value is that of the value without its kind, and the value is read back from it. -/
def Value.Untagged (v : Value) (j : Json) : Prop := j = v.toJson ∧ v.kind.read? j = some v

theorem Value.untagged_toJson (v : Value) : v.Untagged v.toJson := ⟨rfl, v.read?_toJson⟩

namespace Statement

/-- The word for the kind of a statement. -/
def kindWord : Statement → String
  | .select _ => "select"
  | .insert _ => "insert"
  | .insertMultiple _ => "insert_multiple"
  | .update _ => "update"
  | .delete _ => "delete"

theorem text_kind (s : Statement) : s.kind.text = s.kindWord := by
  cases s <;> rfl

/-- The names of the columns that an insert of several rows gives back. -/
def returned : Statement → List String
  | .insertMultiple i => i.returning.map fun column => column.name
  | _ => []

theorem generatedKeys_eq (s : Statement) : s.generatedKeys = s.returned := by
  cases s <;> rfl

/-- What is found in an object that was written for a statement, and in the object of its
parameters. -/
structure ReadBack (config : Config) (s : Statement) (r : Rendered)
    (members bound : List (String × Json)) : Prop where
  names : members.map Prod.fst =
    ["sql", "parameters", "kind"] ++ if s.returned = [] then [] else ["generated_keys"]
  sql : (Json.object members).get? "sql" = some (.text r.sql)
  kind : (Json.object members).get? "kind" = some (.text s.kindWord)
  generatedKeys : (Json.object members).get? "generated_keys" =
    if s.returned = [] then none else some (.array (s.returned.map .text))
  parameters : (Json.object members).get? "parameters" = some (.object bound)
  keys : bound.map Prod.fst = r.parameters.keys
  distinct : r.parameters.keys.Nodup
  numbered : r.parameters.keys = keysFrom config 1 s.holes
  values : List.Forall₂ (fun h j => h.value.Untagged j) s.holes (bound.map Prod.snd)
  recovered : ∀ (i : Nat) (h : Hole), s.holes[i]? = some h →
    ∃ j, (Json.object bound).get? (h.key config (1 + i)) = some j ∧ h.value.Untagged j

theorem render_eq_ok {config : Config} {s : Statement} {r : Rendered}
    {events : List Event} (run : s.render config = .ok (r, events)) :
    r.kind = s.kind ∧ r.generatedKeys = s.generatedKeys ∧
      r.parameters.entries = entriesFrom config 1 s.holes := by
  rw [Statement.render] at run
  rcases rendered : (renderStatement config .empty s).run {} with c | ⟨f, stop⟩ <;>
    rw [rendered] at run
  · cases run
  · cases run
    have entries := ((renderStatement_renders .empty s).ok rendered).1.entries
    rw [s.holes_template] at entries
    exact ⟨rfl, rfl, entries⟩

end Statement

/-- A statement whose values are no floating-point numbers is written as a text that is read back as
an object with the text of the statement, whatever its characters, the word for its kind, the
columns that come back if there are any, and its values in the order of their numbers. Only their
kinds are not told: from each JSON value the value is read back as one of its kind. The keys are
distinct, so each value is found under its own key even if of several members of one name the last
one counts. -/
theorem written_read_back {config : Config} {s : Statement} {r : Rendered} {events : List Event}
    (run : s.render config = .ok (r, events))
    (free : ∀ h ∈ s.holes, h.value.floatFree = true) :
    ∃ members bound, Json.read? r.toJson.print = some (.object members) ∧
      s.ReadBack config r members bound := by
  obtain ⟨kind, generated, entries⟩ := Statement.render_eq_ok run
  rw [s.generatedKeys_eq] at generated
  have values : r.parameters.values = s.holes.map Hole.value := by
    rw [Parameters.values, entries, map_snd_entriesFrom]
  have whole : Json.read? r.toJson.print = some (.object r.members) := by
    refine (Json.readWith?_print_of_floatFree (Rendered.floatFree_toJson ?_) _).trans
      (congrArg some r.toJson_eq)
    rw [values]
    exact List.forall_mem_map.mpr free
  have found {name : String} {value : Json} (mem : (name, value) ∈ r.members) :=
    (Json.get?_object_eq_some_iff r.nodup_members).mpr mem
  refine ⟨r.members, r.parameters.members, whole, ?_⟩
  exact
    { names := by rw [← generated, r.map_fst_members]
      sql := found (by simp [Rendered.members])
      kind := found (by simp [Rendered.members, kind, s.text_kind])
      generatedKeys := by rw [← generated, r.get?_generatedKeys]
      parameters := found (by simp [Rendered.members, Parameters.toJson_eq])
      keys := r.parameters.map_fst_members
      distinct := r.parameters.nodup_keys
      numbered := by rw [Parameters.keys, entries, map_fst_entriesFrom]
      values := by
        rw [Parameters.map_snd_members, values, List.map_map, List.forall₂_map_right_iff]
        exact List.forall₂_same.mpr fun h _ => h.value.untagged_toJson
      recovered := by
        intro i h hole
        have entry : (h.key config (1 + i), h.value) ∈ r.parameters.entries := by
          rw [entries]
          refine List.mem_of_getElem? (i := i) ?_
          rw [getElem?_entriesFrom, hole, Option.map_some]
        refine ⟨h.value.toJson, ?_, h.value.untagged_toJson⟩
        exact (Json.get?_object_eq_some_iff r.parameters.nodup_members).mpr
          (List.mem_map_of_mem entry) }

/-- The tenth of December 1815. -/
def birthday : Calendar.Date := ⟨-56270, by decide, by decide⟩

/-- An insert of a name with a quote in it, of a number, of a date and of a JSON value, whose
identifier comes back. -/
def quotedInsert : Statement :=
  let column (name : String) : Column := ⟨⟨0, "person"⟩, name, .text, none, none⟩
  .insertMultiple
    { table := ⟨0, "person"⟩
      columns := [column "name", column "age", column "born", column "tags"]
      rows := [[.value (.text "Ada \"A\""), .value (.int 36), .value (.date birthday),
        .value (.json (.array [.int (-1), .null]))]]
      returning := [column "id"] }

theorem quotedInsert_read_back : ∃ r events members bound,
    quotedInsert.render {} = .ok (r, events) ∧
    r.sql = "insert into person (name, age, born, tags) values ($1, $2, $3, $4) returning id" ∧
    Json.read? r.toJson.print = some (.object members) ∧
    (Json.object members).get? "sql" = some (.text r.sql) ∧
    (Json.object members).get? "kind" = some (.text "insert_multiple") ∧
    (Json.object members).get? "generated_keys" = some (.array [.text "id"]) ∧
    (Json.object members).get? "parameters" = some (.object bound) ∧
    (Json.object bound).get? "p1" = some (.text "Ada \"A\"") ∧
    (Json.object bound).get? "p2" = some (.int 36) ∧
    (Json.object bound).get? "p3" = some (.text "1815-12-10") ∧
    (Value.Kind.read? .date (.text "1815-12-10")) = some (.date birthday) ∧
    (Json.object bound).get? "p4" = some (.array [.int (-1), .null]) := by
  obtain ⟨r, events, run, sql⟩ : ∃ r events, quotedInsert.render {} = .ok (r, events) ∧
      r.sql = "insert into person (name, age, born, tags) values ($1, $2, $3, $4) returning id" :=
    ⟨_, _, rfl, rfl⟩
  have free : ∀ h ∈ quotedInsert.holes, h.value.floatFree = true := by
    intro h mem
    rcases mem with _ | ⟨_, _ | ⟨_, _ | ⟨_, _ | ⟨_, ⟨⟩⟩⟩⟩⟩ <;> rfl
  obtain ⟨members, bound, read, back⟩ := written_read_back run free
  obtain ⟨_, name, rfl, -⟩ := back.recovered 0 _ rfl
  obtain ⟨_, age, rfl, -⟩ := back.recovered 1 _ rfl
  obtain ⟨_, born, rfl, told⟩ := back.recovered 2 _ rfl
  obtain ⟨_, tags, rfl, -⟩ := back.recovered 3 _ rfl
  exact ⟨r, events, members, bound, run, sql, read, back.sql, back.kind, back.generatedKeys,
    back.parameters, name, age, born, told, tags⟩

end BoundSql
