import BoundSql.Json.Access
import BoundSql.Proofs.CalendarReading
import BoundSql.Value.Text
import Mathlib.Algebra.Group.Int.Defs

/-!
# Values without their kinds

A written statement holds the JSON values of its parameters, which do not tell the kinds of the
values: a text, a date and a moment are all strings. Nothing else is lost. `Value.Kind.read?` reads
a JSON value as a value of a given kind, and `Value.read?_toJson` says that a value is what is read
from its own JSON value as one of its kind, so that two values of one kind differ in their JSON
values (`Value.eq_of_toJson_eq`).
-/

namespace BoundSql

open Calendar

namespace Hex

theorem value?_digitChar : ∀ n < 16, value? (Nat.digitChar n) = some n := by decide

theorem read?_flatMap_ofByte (bytes : List UInt8) : read? (bytes.flatMap ofByte) = some bytes := by
  induction bytes with
  | nil => rfl
  | cons b bytes ih =>
    have size := b.toNat_lt
    have whole : UInt8.ofNat (b.toNat / 16 * 16 + b.toNat % 16) = b := by
      rw [Nat.div_add_mod', UInt8.ofNat_toNat]
    rw [List.flatMap_cons, ofByte, List.cons_append, List.cons_append, List.nil_append, read?,
      value?_digitChar _ (by omega), value?_digitChar _ (by omega), ih]
    exact congrArg (fun c => some (c :: bytes)) whole

theorem length_flatMap_ofByte (bytes : List UInt8) :
    (bytes.flatMap ofByte).length = 2 * bytes.length := by
  induction bytes with
  | nil => rfl
  | cons b bytes ih =>
    rw [List.flatMap_cons, List.length_append, ih, List.length_cons]
    change 2 + 2 * bytes.length = _
    omega

end Hex

namespace Uuid

/-- No place of a group is among those that are left out. -/
theorem map_fst_filter_zipIdx {group : List Char} {start : Nat} {places : List Nat}
    {keep : Char × Nat → Bool} (keeps : ∀ c i, keep (c, i) = !places.contains i)
    (outside : ∀ i ∈ places, i < start ∨ start + group.length ≤ i) :
    ((group.zipIdx start).filter keep).map Prod.fst = group := by
  have whole : (group.zipIdx start).filter keep = group.zipIdx start := by
    refine List.filter_eq_self.mpr ?_
    rintro ⟨c, i⟩ mem
    have place := List.mem_zipIdx mem
    rw [keeps, Bool.not_eq_true', List.contains_eq_mem, decide_eq_false_iff_not]
    intro out
    have bounds := outside i out
    omega
  rw [whole, List.zipIdx_map_fst]

section Groups

variable {a b c d e : List Char} (first : a.length = 8) (second : b.length = 4)
  (third : c.length = 4) (fourth : d.length = 4) (last : e.length = 12)

include first second third fourth last

theorem map_fst_filter_groups {keep : Char × Nat → Bool}
    (keeps : ∀ c i, keep (c, i) = !List.contains [8, 13, 18, 23] i) :
    ((a ++ '-' :: (b ++ '-' :: (c ++ '-' :: (d ++ '-' :: e)))).zipIdx.filter keep).map Prod.fst =
      a ++ (b ++ (c ++ (d ++ e))) := by
  have out (i : Nat) (hyphen : List.contains [8, 13, 18, 23] i = true) (cs : List (Char × Nat)) :
      (('-', i) :: cs).filter keep = cs.filter keep :=
    List.filter_cons_of_neg (ne_true_of_eq_false ((keeps '-' i).trans (congrArg not hyphen)))
  simp only [List.zipIdx_append, List.zipIdx_cons, List.filter_append, List.map_append, first,
    second, third, fourth, Nat.reduceAdd, out 8 rfl, out 13 rfl, out 18 rfl, out 23 rfl]
  rw [map_fst_filter_zipIdx keeps (by simp [first]), map_fst_filter_zipIdx keeps (by simp [second]),
    map_fst_filter_zipIdx keeps (by simp [third]), map_fst_filter_zipIdx keeps (by simp [fourth]),
    map_fst_filter_zipIdx keeps (by simp [last])]

theorem ungroup?_groups : ungroup? (a ++ '-' :: (b ++ '-' :: (c ++ '-' :: (d ++ '-' :: e)))) =
    some (a ++ (b ++ (c ++ (d ++ e)))) := by
  have hyphens : [8, 13, 18, 23].all (fun i =>
      (a ++ '-' :: (b ++ '-' :: (c ++ '-' :: (d ++ '-' :: e))))[i]? == some '-') = true := by
    simp [List.getElem?_append, List.getElem?_cons, first, second, third, fourth]
  rw [ungroup?, if_pos hyphens]
  exact congrArg some (map_fst_filter_groups first second third fourth last fun _ _ => rfl)

end Groups

/-- The digits of an identifier. -/
def digits (u : Uuid) : List Char := u.bytes.toList.flatMap Hex.ofByte

theorem length_digits (u : Uuid) : u.digits.length = 32 := by
  rw [digits, Hex.length_flatMap_ofByte, Vector.length_toList]

/-- So many digits from a place on. -/
def group (u : Uuid) (start size : Nat) : List Char := (u.digits.drop start).take size

theorem length_group (u : Uuid) (start size : Nat) (inside : start + size ≤ 32) :
    (u.group start size).length = size := by
  rw [group, List.length_take, List.length_drop, length_digits]
  omega

theorem toList_text (u : Uuid) : u.text.toList = u.group 0 8 ++ '-' :: (u.group 8 4 ++
    '-' :: (u.group 12 4 ++ '-' :: (u.group 16 4 ++ '-' :: u.group 20 12))) := by
  simp [text, group, digits]

theorem flatten_groups (u : Uuid) : u.group 0 8 ++ (u.group 8 4 ++ (u.group 12 4 ++
    (u.group 16 4 ++ u.group 20 12))) = u.digits := by
  have length := u.length_digits
  have last : u.group 20 12 = u.digits.drop 20 := List.take_of_length_le (by simp [length])
  have behind (start size : Nat) : u.group start size ++ u.digits.drop (start + size) =
      u.digits.drop start := by
    rw [group, ← List.drop_drop, List.take_append_drop]
  rw [last, behind 16 4, behind 12 4, behind 8 4, behind 0 8, List.drop_zero]

theorem ofDigits?_digits (u : Uuid) : ofDigits? u.digits = some u := by
  obtain ⟨⟨⟨bytes⟩, size⟩⟩ := u
  have read : Hex.read? (digits ⟨⟨⟨bytes⟩, size⟩⟩) = some bytes := Hex.read?_flatMap_ofByte bytes
  rw [ofDigits?, read]
  exact dif_pos size

theorem brace_not_mem_digits (u : Uuid) : '\x7b' ∉ u.digits := by
  have other : ∀ n < 16, Nat.digitChar n ≠ '\x7b' := by decide
  intro mem
  obtain ⟨b, -, digit⟩ := List.mem_flatMap.mp mem
  have size := b.toNat_lt
  simp only [Hex.ofByte, List.mem_cons, List.not_mem_nil, or_false] at digit
  rcases digit with high | low
  · exact other _ (by omega) high.symm
  · exact other _ (by omega) low.symm

/-- Behind the first group a hyphen stands, and not the colon of `urn:uuid:`. -/
theorem bare_text (u : Uuid) : bare u.text.toList = u.text.toList := by
  have length := u.length_group 0 8 (by decide)
  have digit : u.group 0 8 ≠ [] := List.ne_nil_of_length_pos (by rw [length]; decide)
  have brace : u.text.toList.head? ≠ some '\x7b' := by
    intro head
    rw [toList_text, List.head?_append_of_ne_nil _ digit] at head
    exact u.brace_not_mem_digits (List.mem_of_mem_take (List.mem_of_head? head))
  have prefixed : (u.text.toList.take 9).map Char.toLower ≠ "urn:uuid:".toList := by
    intro same
    have hyphen : '-' ∈ (u.text.toList.take 9).map Char.toLower := by
      refine List.mem_map.mpr ⟨'-', ?_, by decide⟩
      simp [toList_text, List.take_append, length]
    rw [same] at hyphen
    revert hyphen
    decide
  rw [bare, if_neg fun h => brace h.1, if_neg prefixed]

/-- An identifier is read back from its text. -/
theorem read?_text (u : Uuid) : read? u.text = some u := by
  have groups := ungroup?_groups (u.length_group 0 8 (by decide)) (u.length_group 8 4 (by decide))
    (u.length_group 12 4 (by decide)) (u.length_group 16 4 (by decide))
    (u.length_group 20 12 (by decide))
  have long : ¬ u.text.toList.length = 32 := by
    simp [toList_text, length_group]
  simp only [read?]
  rw [if_neg long, bare_text, toList_text, groups, flatten_groups, Option.bind_some,
    ofDigits?_digits]

end Uuid

namespace Value

/-- The kinds of values, which their JSON values do not tell. -/
inductive Kind where
  | null | bool | int | float | text | bytes | json | instant | wallClock | date | uuid

def kind : Value → Kind
  | .null => .null
  | .bool _ => .bool
  | .int _ => .int
  | .float _ => .float
  | .text _ => .text
  | .bytes _ => .bytes
  | .json _ => .json
  | .instant _ => .instant
  | .wallClock _ => .wallClock
  | .date _ => .date
  | .uuid _ => .uuid

/-- The byte that a number is. -/
def byte? : Json → Option UInt8
  | .int n => if 0 ≤ n ∧ n < 256 then some (UInt8.ofNat n.toNat) else none
  | _ => none

/-- What is read off the front, if this is what is left behind it. -/
def ending {α : Type} (rest : List Char) : Option (α × List Char) → Option α
  | some (a, cs) => if cs = rest then some a else none
  | none => none

/-- The value of a kind that a JSON value stands for. -/
def Kind.read? : Kind → Json → Option Value
  | .null, .null => some .null
  | .bool, .bool b => some (.bool b)
  | .int, .int n => if -2 ^ 63 ≤ n ∧ n < 2 ^ 63 then some (.int (Int64.ofInt n)) else none
  | .float, .float x => some (.float x)
  | .text, .text s => some (.text s)
  | .bytes, .array items => (items.mapM byte?).map .bytes
  | .json, j => some (.json j)
  | .instant, .text s => (ending ['Z'] (Timestamp.read? s.toList)).map .instant
  | .wallClock, .text s => (ending [] (Timestamp.read? s.toList)).map .wallClock
  | .date, .text s => (ending [] (Date.read? s.toList)).map .date
  | .uuid, .text s => (Uuid.read? s).map .uuid
  | _, _ => none

theorem mapM_byte? (bytes : List UInt8) :
    (bytes.map fun b => Json.int b.toNat).mapM byte? = some bytes := by
  induction bytes with
  | nil => rfl
  | cons b bytes ih =>
    have size := b.toNat_lt
    have first : byte? (.int b.toNat) = some b := by
      rw [byte?, if_pos (by omega), Int.toNat_natCast, UInt8.ofNat_toNat]
    rw [List.map_cons, List.mapM_cons, first, ih]
    rfl

/-- A value is read back from its JSON value as one of its kind. -/
theorem read?_toJson (v : Value) : v.kind.read? v.toJson = some v := by
  cases v with
  | int n =>
    have below := n.toInt_lt
    have above := n.le_toInt
    simp only [kind, toJson, Kind.read?]
    rw [if_pos ⟨above, below⟩, Int64.ofInt_toInt]
  | bytes b => exact congrArg (Option.map Value.bytes) (mapM_byte? b)
  | instant t =>
    have zone : Timestamp.isFractional 'Z' = false := by decide
    have back := Timestamp.read?_text t (stops_cons [] zone)
    have written : (t.text "T" ++ "Z").toList = (t.text "T").toList ++ ['Z'] :=
      String.toList_append
    simp only [kind, toJson, Kind.read?, written, back]
    rfl
  | wallClock t =>
    have back := Timestamp.read?_text t (stops_nil _)
    rw [List.append_nil] at back
    simp only [kind, toJson, Kind.read?, back]
    rfl
  | date d =>
    have back := Date.read?_text d []
    rw [List.append_nil] at back
    simp only [kind, toJson, Kind.read?, back]
    rfl
  | uuid u =>
    simp only [kind, toJson, Kind.read?, Uuid.read?_text]
    rfl
  | _ => simp only [kind, toJson, Kind.read?]

/-- Two values of one kind have different JSON values. -/
theorem eq_of_toJson_eq {v w : Value} (kind : v.kind = w.kind) (same : v.toJson = w.toJson) :
    v = w := by
  have back := read?_toJson v
  rw [kind, same, read?_toJson w] at back
  exact (Option.some.inj back).symm

end Value

end BoundSql
