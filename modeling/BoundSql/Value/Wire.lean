import BoundSql.Json.Printer
import BoundSql.Value.Basic

/-!
# Binary encoding

`Value.encode` writes a value in the binary form of a Postgres type. A value of the wrong kind for
the type and an integer outside the width of the type are refused, so nothing is altered on the way;
floating-point numbers bound to `float4` and times finer than a microsecond are the exceptions, and
lose precision as the type does.
-/

namespace BoundSql

/-- The Postgres types that a parameter can be declared with. -/
inductive WireType where
  | bool | int2 | int4 | int8 | float4 | float8 | numeric | oid
  | text | varchar | bpchar | name | unknown | bytea | json | jsonb
  | timestamp | timestamptz | date | time | uuid
  deriving DecidableEq

namespace WireType

/-- The name of the type in the database. -/
def label : WireType → String
  | .bool => "bool"
  | .int2 => "int2"
  | .int4 => "int4"
  | .int8 => "int8"
  | .float4 => "float4"
  | .float8 => "float8"
  | .numeric => "numeric"
  | .oid => "oid"
  | .text => "text"
  | .varchar => "varchar"
  | .bpchar => "bpchar"
  | .name => "name"
  | .unknown => "unknown"
  | .bytea => "bytea"
  | .json => "json"
  | .jsonb => "jsonb"
  | .timestamp => "timestamp"
  | .timestamptz => "timestamptz"
  | .date => "date"
  | .time => "time"
  | .uuid => "uuid"

def all : List WireType :=
  [.bool, .int2, .int4, .int8, .float4, .float8, .numeric, .oid, .text, .varchar, .bpchar, .name,
   .unknown, .bytea, .json, .jsonb, .timestamp, .timestamptz, .date, .time, .uuid]

def ofLabel? (label : String) : Option WireType := all.find? fun t => t.label == label

/-- Reading a name gives back what it names. -/
theorem ofLabel?_label (t : WireType) : ofLabel? t.label = some t := by
  cases t <;> rfl

end WireType

/-- Why a value has no form in a type. -/
inductive EncodeError where
  /-- The type does not take values of this kind. -/
  | wrongType
  /-- The integer does not fit the width of the type. -/
  | outOfRange
  deriving DecidableEq

namespace Wire

/-- A number below `256 ^ width` as bytes, the most significant first. -/
def bigEndian (width n : Nat) : List UInt8 :=
  (List.range width).reverse.map fun i => UInt8.ofNat (n / Nat.pow 256 i)

/-- An integer in two's complement of `width` bytes. -/
def signed (width : Nat) (n : Int) : List UInt8 :=
  bigEndian width (n % (Nat.pow 256 width : Nat)).toNat

/-- The integer fits in two's complement of `width` bytes. -/
def fits (width : Nat) (n : Int) : Bool :=
  let bound : Int := (Nat.pow 2 (8 * width - 1) : Nat)
  n < bound && -bound ≤ n

def utf8 (s : String) : List UInt8 :=
  s.toUTF8.data.toList

/-- The days from 1970 to 2000, where the database counts from. -/
def epochDay : Int := 10957

/-- Microseconds since 2000, truncated toward that moment. -/
def microseconds (t : Calendar.Timestamp) : Int :=
  let seconds := t.unixSeconds - epochDay * 86400
  Int.tdiv (seconds * 1000000000 + t.nanosecond) 1000

/-- Text in the version of `jsonb` that is sent as text. -/
def jsonb (s : String) : List UInt8 :=
  1 :: utf8 s

end Wire

open Wire in
/-- The binary form of a value in a type: nothing for null, else bytes. -/
def Value.encode (type : WireType) : Value → Except EncodeError (Option (List UInt8))
  | .null => .ok none
  | .bool b => match type with
    | .bool => .ok (some [if b then 1 else 0])
    | _ => .error .wrongType
  | .int n => match type with
    | .int2 => if fits 2 n.toInt then .ok (some (signed 2 n.toInt)) else .error .outOfRange
    | .int4 => if fits 4 n.toInt then .ok (some (signed 4 n.toInt)) else .error .outOfRange
    | .int8 => .ok (some (signed 8 n.toInt))
    | _ => .error .wrongType
  | .float x => match type with
    | .float4 => .ok (some (bigEndian 4 x.singleBits))
    | .float8 => .ok (some (bigEndian 8 x.bits))
    | _ => .error .wrongType
  | .text s => match type with
    | .text | .varchar | .bpchar | .name | .unknown | .json => .ok (some (utf8 s))
    | .jsonb => .ok (some (jsonb s))
    | _ => .error .wrongType
  | .bytes b => match type with
    | .bytea => .ok (some b)
    | _ => .error .wrongType
  | .json j => match type with
    | .json => .ok (some (utf8 j.print))
    | .jsonb => .ok (some (jsonb j.print))
    | _ => .error .wrongType
  | .instant t => match type with
    | .timestamptz => .ok (some (signed 8 (microseconds t)))
    | _ => .error .wrongType
  | .wallClock t => match type with
    | .timestamp => .ok (some (signed 8 (microseconds t)))
    | _ => .error .wrongType
  | .date d => match type with
    | .date => .ok (some (signed 4 (d.day - epochDay)))
    | _ => .error .wrongType
  | .uuid u => match type with
    | .uuid => .ok (some u.bytes.toList)
    | _ => .error .wrongType

end BoundSql
