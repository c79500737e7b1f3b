import BoundSql.Proofs.FloatReading
import BoundSql.Value.Writing
import Mathlib.Algebra.Group.Int.Defs
import Mathlib.Algebra.Group.Nat.Defs
import Mathlib.Tactic.ByContra

/-!
# Binary forms and what they mean

`WireType.decode?` reads the binary form of a type as the database does. A value other than a
floating-point number comes back from its form (`Value.decode?_encode`): an integer and a text as
themselves, a JSON value as a text that it is read from again, a moment without what is finer than a
microsecond. Which values have a form in a type is told by `Value.accepted` and by the width of the
type (`Value.encode_outcomes`). Nothing is put into a buffer but the whole form
(`Value.write_eq_appended`).
-/

namespace BoundSql

open Calendar

namespace Wire

/-! ## Numbers as bytes -/

/-- The number of bytes, the most significant first. -/
def unsigned : List UInt8 → Nat
  | [] => 0
  | b :: bytes => b.toNat * 256 ^ bytes.length + unsigned bytes

/-- The integer of bytes in two's complement. -/
def twosComplement (bytes : List UInt8) : Int :=
  if 2 * unsigned bytes < 256 ^ bytes.length then unsigned bytes
  else unsigned bytes - (256 ^ bytes.length : Nat)

theorem bigEndian_succ (width n : Nat) :
    bigEndian (width + 1) n = UInt8.ofNat (n / 256 ^ width) :: bigEndian width n := by
  simp [bigEndian, List.range_succ]

theorem length_bigEndian (width n : Nat) : (bigEndian width n).length = width := by
  simp [bigEndian]

theorem unsigned_bigEndian (width n : Nat) : unsigned (bigEndian width n) = n % 256 ^ width := by
  induction width with
  | zero => simp [bigEndian, unsigned, Nat.mod_one]
  | succ width ih =>
    have byte : (UInt8.ofNat (n / 256 ^ width)).toNat = n / 256 ^ width % 256 := rfl
    rw [bigEndian_succ, unsigned, byte, ih, length_bigEndian, Nat.mod_pow_succ, Nat.add_comm,
      Nat.mul_comm]

theorem fits_iff {width : Nat} {n : Int} :
    fits width n = true ↔ n < (2 ^ (8 * width - 1) : Nat) ∧ -(2 ^ (8 * width - 1) : Nat) ≤ n := by
  simp only [fits, Bool.and_eq_true, decide_eq_true_eq]
  rfl

theorem twosComplement_signed {width : Nat} (positive : 0 < width) {n : Int}
    (inside : fits width n = true) : twosComplement (signed width n) = n := by
  obtain ⟨below, above⟩ := fits_iff.mp inside
  have double : (256 : Nat) ^ width = 2 * 2 ^ (8 * width - 1) := by
    have exponent : 8 * width = 8 * width - 1 + 1 := by omega
    rw [show 256 = 2 ^ 8 from rfl, ← Nat.pow_mul, exponent, Nat.pow_succ']
    rfl
  have length : (signed width n).length = width := length_bigEndian width _
  have number : unsigned (signed width n) = (n % (256 ^ width : Nat)).toNat := by
    have size : 0 < ((256 ^ width : Nat) : Int) := Int.natCast_pos.mpr (Nat.pow_pos (by decide))
    have lower := Int.emod_nonneg n (Int.ne_of_gt size)
    have upper := Int.emod_lt_of_pos n size
    rw [signed, unsigned_bigEndian]
    refine Nat.mod_eq_of_lt ?_
    change (n % ((256 ^ width : Nat) : Int)).toNat < 256 ^ width
    omega
  unfold twosComplement
  rw [length, number, double]
  generalize 2 ^ (8 * width - 1) = half at below above
  by_cases sign : 0 ≤ n
  · have same : n % (2 * half : Nat) = n := Int.emod_eq_of_lt sign (by omega)
    rw [same, if_pos (by omega)]
    omega
  · -- a negative number stands as its complement to `256 ^ width`
    have wrapped : n % (2 * half : Nat) = n + (2 * half : Nat) := by
      rw [← Int.add_emod_right]
      exact Int.emod_eq_of_lt (by omega) (by omega)
    rw [wrapped, if_neg (by omega)]
    omega

/-! ## Texts as bytes -/

def text? (bytes : List UInt8) : Option String := String.fromUTF8? ⟨bytes.toArray⟩

theorem text?_utf8 (s : String) : text? (utf8 s) = some s := by
  have whole : ByteArray.mk (utf8 s).toArray = s.toByteArray := by
    rw [utf8, Array.toArray_toList]
    rfl
  rw [text?, whole, String.fromUTF8?, dif_pos s.isValidUTF8]
  rfl

/-! ## Days and moments as numbers -/

/-- The first day of the year 2000. -/
def millennium : Int := Date.dayNumber 2000 1 1

theorem millennium_eq : millennium = 10957 := by
  decide

/-- Nanoseconds since the start of the year 2000. -/
def elapsed (t : Timestamp) : Int :=
  (t.unixSeconds - millennium * 86400) * 1000000000 + t.nanosecond

/-- The moment is the other one without what is finer than a microsecond, so that it is not farther
from the start of the year 2000. -/
def TruncationOf (u t : Timestamp) : Prop :=
  1000 ∣ elapsed u ∧ (0 ≤ elapsed t → elapsed u ≤ elapsed t ∧ elapsed t < elapsed u + 1000) ∧
    (elapsed t ≤ 0 → elapsed t ≤ elapsed u ∧ elapsed u < elapsed t + 1000)

/-- The moment of a number of microseconds since the start of the year 2000. -/
def moment? (n : Int) : Option Timestamp :=
  Timestamp.ofUnix? (millennium * 86400 + n / 1000000) ((n % 1000000).toNat * 1000)

theorem microseconds_eq (t : Timestamp) : microseconds t = (elapsed t).tdiv 1000 := by
  rw [microseconds, elapsed, millennium_eq]
  rfl

/-- Truncated division leaves less than the divisor, on the side of zero. -/
theorem microseconds_bounds (t : Timestamp) :
    (0 ≤ elapsed t → 1000 * microseconds t ≤ elapsed t ∧
        elapsed t < 1000 * microseconds t + 1000) ∧
      (elapsed t ≤ 0 → elapsed t ≤ 1000 * microseconds t ∧
        1000 * microseconds t < elapsed t + 1000) := by
  rw [microseconds_eq]
  generalize elapsed t = n
  refine ⟨fun after => ?_, fun before => ?_⟩
  · rw [Int.tdiv_eq_ediv_of_nonneg after]
    omega
  · have mirrored : n.tdiv 1000 = -(-n / 1000) := by
      rw [← Int.tdiv_eq_ediv_of_nonneg (by omega), Int.neg_tdiv, Int.neg_neg]
    rw [mirrored]
    omega

theorem elapsed_bounds (t : Timestamp) :
    -9000000000000000000000 < elapsed t ∧ elapsed t < 9000000000000000000000 := by
  have least := t.date.least_le
  have greatest := t.date.le_greatest
  have second := t.second_lt
  have nanosecond := t.nanosecond_lt
  rw [elapsed, millennium_eq, Timestamp.unixSeconds]
  omega

theorem fits_microseconds (t : Timestamp) : fits 8 (microseconds t) = true := by
  have size := elapsed_bounds t
  have near := microseconds_bounds t
  rw [fits_iff]
  omega

theorem ofUnix?_eq_some (seconds : Int) (nanosecond : Nat) (least : -96465292 ≤ seconds / 86400)
    (greatest : seconds / 86400 ≤ 95026236) (plain : nanosecond < 1000000000) :
    ∃ u, Timestamp.ofUnix? seconds nanosecond = some u ∧ u.unixSeconds = seconds ∧
      u.nanosecond = nanosecond := by
  have date : Date.ofDay? (seconds / 86400) = some ⟨seconds / 86400, least, greatest⟩ :=
    dif_pos ⟨least, greatest⟩
  have inside : nanosecond < 2000000000 ∧
      (1000000000 ≤ nanosecond → (seconds % 86400).toNat % 60 = 59) := by
    omega
  refine ⟨⟨⟨seconds / 86400, least, greatest⟩, (seconds % 86400).toNat, nanosecond, by omega,
    inside.1, inside.2⟩, ?_, ?_, rfl⟩
  · rw [Timestamp.ofUnix?, date]
    exact dif_pos inside
  · change seconds / 86400 * 86400 + ((seconds % 86400).toNat : Int) = seconds
    omega

/-- A moment comes back from its microseconds without what is finer. -/
theorem moment?_microseconds {t : Timestamp} (plain : t.nanosecond < 1000000000) :
    ∃ u, moment? (microseconds t) = some u ∧ TruncationOf u t := by
  have near := microseconds_bounds t
  have least := t.date.least_le
  have greatest := t.date.le_greatest
  have second := t.second_lt
  have whole : elapsed t = (t.date.day * 86400 + t.second - 10957 * 86400) * 1000000000 +
      t.nanosecond := by
    rw [elapsed, millennium_eq, Timestamp.unixSeconds]
  -- the second is that of the moment, or before 2000 the one behind it
  have seconds : 10957 * 86400 + microseconds t / 1000000 = t.date.day * 86400 + t.second ∨
      (elapsed t < 0 ∧
        10957 * 86400 + microseconds t / 1000000 = t.date.day * 86400 + t.second + 1) := by
    omega
  obtain ⟨u, found, atSecond, nanosecond⟩ :=
    ofUnix?_eq_some (millennium * 86400 + microseconds t / 1000000)
      ((microseconds t % 1000000).toNat * 1000) (by rw [millennium_eq]; omega)
      (by rw [millennium_eq]; omega) (by omega)
  have again : elapsed u = 1000 * microseconds t := by
    rw [elapsed, atSecond, nanosecond]
    omega
  refine ⟨u, found, ?_, ?_, ?_⟩
  · exact ⟨microseconds t, again⟩
  · rw [again]
    exact near.1
  · rw [again]
    exact near.2

/-- The integer of so many bytes. -/
def integer? (width : Nat) (bytes : List UInt8) : Option Int :=
  if bytes.length = width then some (twosComplement bytes) else none

theorem integer?_signed {width : Nat} (positive : 0 < width) {n : Int}
    (inside : fits width n = true) : integer? width (signed width n) = some n := by
  have length : (signed width n).length = width := length_bigEndian width _
  rw [integer?, if_pos length, twosComplement_signed positive inside]

end Wire

/-! ## Reading the form of a type -/

open Wire in
/-- The value whose form in the type the bytes are, for the types in which values other than
floating-point numbers have a form. -/
def WireType.decode? (type : WireType) (bytes : List UInt8) : Option Value :=
  match type with
  | .bool =>
    if bytes = [0] then some (.bool false) else if bytes = [1] then some (.bool true) else none
  | .int2 => (integer? 2 bytes).map fun n => .int (Int64.ofInt n)
  | .int4 => (integer? 4 bytes).map fun n => .int (Int64.ofInt n)
  | .int8 => (integer? 8 bytes).map fun n => .int (Int64.ofInt n)
  | .text | .varchar | .bpchar | .name | .unknown | .json => (text? bytes).map .text
  | .jsonb => if bytes.head? = some 1 then (text? bytes.tail).map .text else none
  | .bytea => some (.bytes bytes)
  | .timestamp => ((integer? 8 bytes).bind moment?).map .wallClock
  | .timestamptz => ((integer? 8 bytes).bind moment?).map .instant
  | .date => ((integer? 4 bytes).bind fun n => Date.ofDay? (n + millennium)).map .date
  | .uuid =>
    if h : bytes.length = 16 then some (.uuid ⟨⟨bytes.toArray, h⟩⟩) else none
  | .float4 | .float8 | .numeric | .oid | .time => none

namespace Value

/-- The types that take values of this kind. -/
def accepted : Value → List WireType
  | .null => WireType.all
  | .bool _ => [.bool]
  | .int _ => [.int2, .int4, .int8]
  | .float _ => [.float4, .float8]
  | .text _ => [.text, .varchar, .bpchar, .name, .unknown, .json, .jsonb]
  | .bytes _ => [.bytea]
  | .json _ => [.json, .jsonb]
  | .instant _ => [.timestamptz]
  | .wallClock _ => [.timestamp]
  | .date _ => [.date]
  | .uuid _ => [.uuid]

/-- An integer beyond the width of the type. -/
def Overflows (v : Value) (type : WireType) : Prop :=
  ∃ n : Int64, v = .int n ∧
    ((type = .int2 ∧ ¬ (-2 ^ 15 ≤ n.toInt ∧ n.toInt < 2 ^ 15)) ∨
      (type = .int4 ∧ ¬ (-2 ^ 31 ≤ n.toInt ∧ n.toInt < 2 ^ 31)))

/-- Neither a floating-point number nor a moment in a leap second. -/
def Plain : Value → Prop
  | .float _ => False
  | .instant t => t.nanosecond < 1000000000
  | .wallClock t => t.nanosecond < 1000000000
  | _ => True

/-- What a value comes back as: a JSON value as its compact text, in which it is read again, however
numbers are rounded if it holds no floating-point number and by rounding to nearest otherwise; a
moment without what is finer than a microsecond; and everything else as itself. -/
def ReturnsAs (v w : Value) : Prop :=
  match v with
  | .json j => ∃ s, w = .text s ∧ s = j.print ∧
      (j.floatFree = true → ∀ round, Json.readWith? round s = some j) ∧
      (j.allFloats Decimal.Double.isFinite = true → Json.readWith? Json.nearest? s = some j)
  | .instant t => ∃ u, w = .instant u ∧ Wire.TruncationOf u t
  | .wallClock t => ∃ u, w = .wallClock u ∧ Wire.TruncationOf u t
  | v => w = v

variable {v : Value} {type : WireType}

theorem encode_of_not_accepted (h : type ∉ v.accepted) : v.encode type = .error .wrongType := by
  cases v <;> cases type <;> first | rfl | simp [accepted, WireType.all] at h

theorem encode_of_overflows (h : v.Overflows type) : v.encode type = .error .outOfRange := by
  obtain ⟨n, rfl, ⟨rfl, outside⟩ | ⟨rfl, outside⟩⟩ := h
  · have wide : ¬ Wire.fits 2 n.toInt = true := by
      rw [Wire.fits_iff]
      omega
    exact if_neg wide
  · have wide : ¬ Wire.fits 4 n.toInt = true := by
      rw [Wire.fits_iff]
      omega
    exact if_neg wide

/-- A form in the type that comes back as the value. -/
def Formed (v : Value) (type : WireType) : Prop :=
  ∃ bytes, v.encode type = .ok (some bytes) ∧
    (v.Plain → ∃ w, type.decode? bytes = some w ∧ v.ReturnsAs w)

theorem formed_int {n : Int64} (mem : type ∈ (Value.int n).accepted)
    (inside : ¬ (Value.int n).Overflows type) : (Value.int n).Formed type := by
  have back : ∀ width, 0 < width → Wire.fits width n.toInt = true →
      (Wire.integer? width (Wire.signed width n.toInt)).map (fun n => Value.int (Int64.ofInt n)) =
        some (.int n) := by
    intro width positive fits
    rw [Wire.integer?_signed positive fits, Option.map_some, Int64.ofInt_toInt]
  simp only [accepted, List.mem_cons, List.not_mem_nil, or_false] at mem
  obtain rfl | rfl | rfl := mem
  · have fits : Wire.fits 2 n.toInt = true := by
      by_contra wide
      refine inside ⟨n, rfl, .inl ⟨rfl, fun narrow => wide ?_⟩⟩
      rw [Wire.fits_iff]
      omega
    exact ⟨_, if_pos fits, fun _ => ⟨_, back 2 (by decide) fits, rfl⟩⟩
  · have fits : Wire.fits 4 n.toInt = true := by
      by_contra wide
      refine inside ⟨n, rfl, .inr ⟨rfl, fun narrow => wide ?_⟩⟩
      rw [Wire.fits_iff]
      omega
    exact ⟨_, if_pos fits, fun _ => ⟨_, back 4 (by decide) fits, rfl⟩⟩
  · have fits : Wire.fits 8 n.toInt = true := by
      have below := n.toInt_lt
      have above := n.le_toInt
      rw [Wire.fits_iff]
      omega
    exact ⟨_, rfl, fun _ => ⟨_, back 8 (by decide) fits, rfl⟩⟩

theorem formed_text {s : String} (mem : type ∈ (Value.text s).accepted) :
    (Value.text s).Formed type := by
  have back : (Wire.text? (Wire.utf8 s)).map Value.text = some (.text s) := by
    rw [Wire.text?_utf8]
    rfl
  simp only [accepted, List.mem_cons, List.not_mem_nil, or_false] at mem
  obtain rfl | rfl | rfl | rfl | rfl | rfl | rfl := mem <;> exact ⟨_, rfl, fun _ => ⟨_, back, rfl⟩⟩

theorem formed_json {j : Json} (mem : type ∈ (Value.json j).accepted) :
    (Value.json j).Formed type := by
  have back : (Wire.text? (Wire.utf8 j.print)).map Value.text = some (.text j.print) := by
    rw [Wire.text?_utf8]
    rfl
  have again : (Value.json j).ReturnsAs (.text j.print) :=
    ⟨_, rfl, rfl, Json.readWith?_print_of_floatFree, Json.readWith?_nearest_print⟩
  simp only [accepted, List.mem_cons, List.not_mem_nil, or_false] at mem
  obtain rfl | rfl := mem <;> exact ⟨_, rfl, fun _ => ⟨_, back, again⟩⟩

theorem formed_moment {t : Timestamp} {make : Timestamp → Value}
    (plain : t.nanosecond < 1000000000) :
    ∃ u, ((Wire.integer? 8 (Wire.signed 8 (Wire.microseconds t))).bind Wire.moment?).map make =
      some (make u) ∧ Wire.TruncationOf u t := by
  obtain ⟨u, found, cut⟩ := Wire.moment?_microseconds plain
  refine ⟨u, ?_, cut⟩
  rw [Wire.integer?_signed (by decide) (Wire.fits_microseconds t), Option.bind_some, found]
  rfl

theorem formed_date {d : Date} : (Value.date d).Formed .date := by
  have least := d.least_le
  have greatest := d.le_greatest
  have fits : Wire.fits 4 (d.day - Wire.epochDay) = true := by
    rw [Wire.fits_iff, Wire.epochDay]
    omega
  have day : d.day - Wire.epochDay + Wire.millennium = d.day := by
    rw [Wire.millennium_eq, Wire.epochDay]
    omega
  refine ⟨_, rfl, fun _ => ⟨_, ?_, rfl⟩⟩
  rw [WireType.decode?, Wire.integer?_signed (by decide) fits, Option.bind_some, day]
  exact congrArg (Option.map Value.date) (dif_pos ⟨least, greatest⟩)

theorem formed_uuid {u : Uuid} : (Value.uuid u).Formed .uuid := by
  obtain ⟨⟨bytes, size⟩⟩ := u
  exact ⟨_, rfl, fun _ => ⟨_, dif_pos size, rfl⟩⟩

theorem formed_of_accepted (present : v ≠ .null) (mem : type ∈ v.accepted)
    (inside : ¬ v.Overflows type) : v.Formed type := by
  cases v with
  | null => exact absurd rfl present
  | bool b =>
    obtain rfl := List.mem_singleton.mp mem
    exact ⟨_, rfl, fun _ => ⟨_, by cases b <;> rfl, rfl⟩⟩
  | int n => exact formed_int mem inside
  | float x =>
    simp only [accepted, List.mem_cons, List.not_mem_nil, or_false] at mem
    obtain rfl | rfl := mem <;> exact ⟨_, rfl, False.elim⟩
  | text s => exact formed_text mem
  | bytes b =>
    obtain rfl := List.mem_singleton.mp mem
    exact ⟨_, rfl, fun _ => ⟨_, rfl, rfl⟩⟩
  | json j => exact formed_json mem
  | instant t =>
    obtain rfl := List.mem_singleton.mp mem
    refine ⟨_, rfl, fun plain => ?_⟩
    obtain ⟨u, found, cut⟩ := formed_moment plain
    rw [WireType.decode?]
    exact ⟨_, found, u, rfl, cut⟩
  | wallClock t =>
    obtain rfl := List.mem_singleton.mp mem
    refine ⟨_, rfl, fun plain => ?_⟩
    obtain ⟨u, found, cut⟩ := formed_moment plain
    rw [WireType.decode?]
    exact ⟨_, found, u, rfl, cut⟩
  | date d =>
    obtain rfl := List.mem_singleton.mp mem
    exact formed_date
  | uuid u =>
    obtain rfl := List.mem_singleton.mp mem
    exact formed_uuid

theorem null_accepted (type : WireType) : type ∈ Value.null.accepted := by
  cases type <;> decide

theorem Overflows.accepted (h : v.Overflows type) : v ≠ .null ∧ type ∈ v.accepted := by
  obtain ⟨n, rfl, ⟨rfl, -⟩ | ⟨rfl, -⟩⟩ := h <;> simp [Value.accepted]

/-- Whether a value is null, of no kind that the type takes, too wide or formed. -/
theorem encode_outcomes (v : Value) (type : WireType) :
    (v.encode type = .ok none ↔ v = .null) ∧
      (v.encode type = .error .outOfRange ↔ v.Overflows type) ∧
      (v.encode type = .error .wrongType ↔ type ∉ v.accepted) := by
  by_cases null : v = .null
  · subst null
    refine ⟨iff_of_true rfl rfl, iff_of_false nofun fun outside => outside.accepted.1 rfl, ?_⟩
    exact iff_of_false nofun fun other => other (null_accepted type)
  · by_cases outside : v.Overflows type
    · rw [encode_of_overflows outside]
      exact ⟨iff_of_false nofun null, iff_of_true rfl outside,
        iff_of_false nofun fun other => other outside.accepted.2⟩
    · by_cases mem : type ∈ v.accepted
      · obtain ⟨bytes, formed, -⟩ := formed_of_accepted null mem outside
        rw [formed]
        exact ⟨iff_of_false nofun null, iff_of_false nofun outside,
          iff_of_false nofun fun other => other mem⟩
      · rw [encode_of_not_accepted mem]
        exact ⟨iff_of_false nofun null, iff_of_false nofun outside, iff_of_true rfl mem⟩

theorem decode?_encode (plain : v.Plain) {form : List UInt8}
    (encoded : v.encode type = .ok (some form)) :
    ∃ w, type.decode? form = some w ∧ v.ReturnsAs w := by
  obtain ⟨absent, outside, other⟩ := encode_outcomes v type
  rw [encoded] at absent outside other
  have present : v ≠ .null := fun null => nomatch absent.mpr null
  have mem : type ∈ v.accepted := by
    by_contra refused
    exact nomatch other.mpr refused
  have inside : ¬ v.Overflows type := fun wide => nomatch outside.mpr wide
  obtain ⟨same, formed, back⟩ := formed_of_accepted present mem inside
  rw [encoded] at formed
  cases formed
  exact back plain

/-! ## Writing -/

/-- What becomes of a buffer by the form of a value. -/
def appended (buffer : List UInt8) :
    Except EncodeError (Option (List UInt8)) → Except EncodeError Presence × List UInt8
  | .error e => (.error e, buffer)
  | .ok none => (.ok .absent, buffer)
  | .ok (some form) => (.ok .present, buffer ++ form)

theorem narrowed_run (width : Nat) (type : WireType) (n : Int) (buffer : List UInt8) :
    (Wire.narrowed width type n).run.run buffer =
      appended buffer (if Wire.fits width n then .ok (some (Wire.signed width n))
        else .error .outOfRange) := by
  unfold Wire.narrowed Wire.checked
  by_cases fits : Wire.fits width n = true
  · simp [fits]
    rfl
  · simp [fits]
    rfl

/-- Nothing is written but the whole form of the value. -/
theorem write_eq_appended (v : Value) (type : WireType) (buffer : List UInt8) :
    (v.write type).run.run buffer = appended buffer (v.encode type) := by
  have version : ∀ s, buffer ++ [1] ++ Wire.utf8 s = buffer ++ Wire.jsonb s := fun s =>
    List.append_assoc buffer [1] (Wire.utf8 s)
  cases v <;> cases type <;> try rfl
  case int.int2 n => exact narrowed_run 2 .int2 n.toInt buffer
  case int.int4 n => exact narrowed_run 4 .int4 n.toInt buffer
  case text.jsonb s => exact congrArg (Prod.mk _) (version s)
  case json.jsonb j => exact congrArg (Prod.mk _) (version j.print)

/-- Binding a value to a type. It is null exactly for the null value, and fails exactly where the
type does not take its kind or an integer does not fit; then the buffer stays as it was. Otherwise
the bytes that are put behind the buffer come back as the value. JSON is bound as its text is. -/
theorem encode_faithful (v : Value) (type : WireType) :
    ((v.encode type = .ok none ↔ v = .null) ∧
      (v.encode type = .error .outOfRange ↔ v.Overflows type) ∧
      (v.encode type = .error .wrongType ↔ type ∉ v.accepted)) ∧
    (v.Plain → ∀ form, v.encode type = .ok (some form) →
      ∃ w, type.decode? form = some w ∧ v.ReturnsAs w) ∧
    (∀ buffer, (v.write type).run.run buffer = appended buffer (v.encode type)) ∧
    ∀ j : Json, (Value.json j).encode .json = (Value.text j.print).encode .json ∧
      (Value.json j).encode .jsonb = (Value.text j.print).encode .jsonb := by
  refine ⟨encode_outcomes v type, ?_, write_eq_appended v type, fun j => ⟨rfl, rfl⟩⟩
  intro plain form encoded
  exact decode?_encode plain encoded

/-- Half a microsecond before the start of the year 2000. -/
def eveOfMillennium : Timestamp :=
  ⟨⟨10956, by decide, by decide⟩, 86399, 999999500, by decide, by decide, by decide⟩

/-- A name with quotes in it, and a negative number. -/
def quotedName : Json :=
  .object [("born", .int (-815)), ("name", .text "Ada \"A\"")]

/-- The number of double precision nearest to `-0.1`. -/
def tenthBelow : Json :=
  .array [.float (Decimal.Double.ofCode true 0x3fb999999999999a)]

theorem eveOfMillennium_faithful :
    (Value.instant eveOfMillennium).Plain ∧
      (Value.instant eveOfMillennium).encode .timestamptz = .ok (some [0, 0, 0, 0, 0, 0, 0, 0]) ∧
      (∃ w, WireType.timestamptz.decode? [0, 0, 0, 0, 0, 0, 0, 0] = some w ∧
        (Value.instant eveOfMillennium).ReturnsAs w) ∧
      (Value.int 32768).encode .int2 = .error .outOfRange ∧
      (∃ form s, (Value.json quotedName).encode .jsonb = .ok (some form) ∧
        WireType.jsonb.decode? form = some (.text s) ∧ Json.read? s = some quotedName) ∧
      ∃ form, (Value.json tenthBelow).encode .json = .ok (some form) ∧
        WireType.json.decode? form = some (.text "[-0.1]") ∧
        Json.readWith? Json.nearest? "[-0.1]" = some tenthBelow := by
  have plain : (Value.instant eveOfMillennium).Plain := by
    change 999999500 < 1000000000
    omega
  have encoded : (Value.instant eveOfMillennium).encode .timestamptz =
      .ok (some [0, 0, 0, 0, 0, 0, 0, 0]) := by
    rfl
  have wide : (Value.int 32768).Overflows .int2 := ⟨32768, rfl, .inl ⟨rfl, by decide⟩⟩
  obtain ⟨w, decoded, s, rfl, -, read, -⟩ :=
    (encode_faithful (.json quotedName) .jsonb).2.1 trivial _ rfl
  obtain ⟨w, decoded', s', rfl, text, -, read'⟩ :=
    (encode_faithful (.json tenthBelow) .json).2.1 trivial _ rfl
  have tenth : tenthBelow.print = "[-0.1]" := by rfl
  obtain rfl := text.trans tenth
  exact ⟨plain, encoded, (encode_faithful _ .timestamptz).2.1 plain _ encoded,
    (encode_faithful _ .int2).1.2.1.mpr wide,
    ⟨Wire.jsonb quotedName.print, s, rfl, decoded, read rfl _⟩,
    Wire.utf8 tenthBelow.print, rfl, decoded', read' rfl⟩

end Value

end BoundSql
