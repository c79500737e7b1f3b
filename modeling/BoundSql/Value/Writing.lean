import BoundSql.Value.Wire

/-!
# Writing values into a buffer

A parameter is written behind what the buffer already holds. What has been written stays when the
writing fails later, so a value is checked against its type, and an integer against its width,
before the first byte is put.
-/

namespace BoundSql

/-- Steps that put bytes behind a buffer and may fail. -/
abbrev Writing := ExceptT EncodeError (StateM (List UInt8))

/-- The parameter is sent as null, or as the bytes in the buffer. -/
inductive Presence where
  | absent | present
  deriving DecidableEq

namespace Wire

def put (bytes : List UInt8) : Writing Unit := modify (· ++ bytes)

/-- A form that some types take, in the type the parameter is declared with. -/
def checked (accepted : List WireType) (type : WireType) (form : Writing Unit) :
    Writing Presence := do
  unless accepted.contains type do throw .wrongType
  form
  return .present

/-- An integer narrowed to a width, and then checked as an integer of this width. -/
def narrowed (width : Nat) (type : WireType) (n : Int) : Writing Presence := do
  unless fits width n do throw .outOfRange
  checked [type] type (put (signed width n))

end Wire

open Wire in
/-- A value is put behind the buffer in the form of a type. -/
def Value.write (type : WireType) : Value → Writing Presence
  | .null => return .absent
  | .bool b => checked [.bool] type (put [if b then 1 else 0])
  | .int n =>
    if type = .int2 then narrowed 2 .int2 n.toInt
    else if type = .int4 then narrowed 4 .int4 n.toInt
    else checked [.int8] type (put (signed 8 n.toInt))
  | .float x =>
    if type = .float4 then checked [.float4] type (put (bigEndian 4 x.singleBits))
    else checked [.float8] type (put (bigEndian 8 x.bits))
  | .text s =>
    if type = .jsonb then do
      put [1]
      put (utf8 s)
      return .present
    else if type = .json then do
      put (utf8 s)
      return .present
    else checked [.text, .varchar, .bpchar, .name, .unknown] type (put (utf8 s))
  | .bytes b => checked [.bytea] type (put b)
  | .json j => checked [.json, .jsonb] type do
    if type = .jsonb then put [1]
    put (utf8 j.print)
  | .instant t => checked [.timestamptz] type (put (signed 8 (microseconds t)))
  | .wallClock t => checked [.timestamp] type (put (signed 8 (microseconds t)))
  | .date d => checked [.date] type (put (signed 4 (d.day - epochDay)))
  | .uuid u => checked [.uuid] type (put u.bytes.toList)

end BoundSql
