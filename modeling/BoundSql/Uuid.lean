import BoundSql.Hex

/-!
# Universally unique identifiers

Sixteen bytes, written in hexadecimal in groups of four, two, two, two and six bytes. Reading takes
the digits alone, or the groups with hyphens between them, which may stand in braces or behind
`urn:uuid:`, in either case.
-/

namespace BoundSql

structure Uuid where
  bytes : Vector UInt8 16
  deriving DecidableEq

namespace Uuid

/-- The written form, with hyphens. -/
def text (u : Uuid) : String :=
  let hex := u.bytes.toList.flatMap Hex.ofByte
  let group (start size : Nat) := String.ofList ((hex.drop start).take size)
  String.intercalate "-" [group 0 8, group 8 4, group 12 4, group 16 4, group 20 12]

/-- The identifier of its digits. -/
def ofDigits? (digits : List Char) : Option Uuid := do
  let bytes ← Hex.read? digits
  if h : bytes.length = 16 then return ⟨⟨bytes.toArray, by simpa using h⟩⟩ else none

/-- What stands in braces or behind `urn:uuid:`, whose letters may be of either case. -/
def bare (cs : List Char) : List Char :=
  if cs.head? = some '\x7b' ∧ cs.getLast? = some '\x7d' then (cs.drop 1).dropLast
  else if (cs.take 9).map Char.toLower = "urn:uuid:".toList then cs.drop 9
  else cs

/-- The digits of groups with hyphens between them. -/
def ungroup? (cs : List Char) : Option (List Char) :=
  let hyphens := [8, 13, 18, 23]
  if hyphens.all fun i => cs[i]? == some '-' then
    some ((cs.zipIdx.filter fun (_, i) => !hyphens.contains i).map Prod.fst)
  else none

def read? (text : String) : Option Uuid :=
  let cs := text.toList
  if cs.length = 32 then ofDigits? cs else (ungroup? (bare cs)).bind ofDigits?

end Uuid

end BoundSql
