import BoundSql.Hex
import BoundSql.Json.Number

/-!
# Reading JSON

`Json.read?` reads one value with blanks around it. The members of an object stay in the order in
which they are written. What becomes of a number that is no integer is left open up to there.
-/

namespace BoundSql.Json

def isBlank (c : Char) : Bool :=
  c == ' ' || c == '\t' || c == '\n' || c == '\r'

/-- The characters behind the blanks. -/
def skipBlanks (cs : List Char) : List Char :=
  cs.dropWhile isBlank

/-- The value of four hexadecimal digits. -/
def hexUnit? (a b c d : Char) : Option Nat := do
  let high := (← Hex.value? a) * 16 + (← Hex.value? b)
  let low := (← Hex.value? c) * 16 + (← Hex.value? d)
  return high * 256 + low

/-- The character behind a backslash, one letter long. -/
def unescape? : Char → Option Char
  | '"' => some '"'
  | '\\' => some '\\'
  | '/' => some '/'
  | 'b' => some '\x08'
  | 'f' => some '\x0c'
  | 'n' => some '\n'
  | 'r' => some '\r'
  | 't' => some '\t'
  | _ => none

/-- The character of one code unit, which is no surrogate. -/
def unitChar? (u : Nat) : Option Char :=
  if 0xd800 ≤ u ∧ u < 0xe000 then none else some (Char.ofNat u)

/-- The character of a surrogate pair. -/
def pairChar? (high low : Nat) : Option Char :=
  if 0xd800 ≤ high ∧ high < 0xdc00 ∧ 0xdc00 ≤ low ∧ low < 0xe000 then
    some (Char.ofNat (0x10000 + (high - 0xd800) * 0x400 + (low - 0xdc00)))
  else none

/-- The characters up to the closing quote, and what is behind it. -/
def readChars : List Char → Option (List Char × List Char)
  | [] => none
  | '"' :: rest => some ([], rest)
  | '\\' :: 'u' :: a :: b :: c :: d :: '\\' :: 'u' :: e :: f :: g :: h :: rest => do
    let first ← hexUnit? a b c d
    match unitChar? first with
    | some x =>
      let (cs, r) ← readChars ('\\' :: 'u' :: e :: f :: g :: h :: rest)
      return (x :: cs, r)
    | none =>
      let x ← pairChar? first (← hexUnit? e f g h)
      let (cs, r) ← readChars rest
      return (x :: cs, r)
  | '\\' :: 'u' :: a :: b :: c :: d :: rest => do
    let x ← unitChar? (← hexUnit? a b c d)
    let (cs, r) ← readChars rest
    return (x :: cs, r)
  | '\\' :: e :: rest => do
    let x ← unescape? e
    let (cs, r) ← readChars rest
    return (x :: cs, r)
  | c :: rest => do
    if c == '\\' || c.toNat < 0x20 then none
    let (cs, r) ← readChars rest
    return (c :: cs, r)

/-- A word taken off the front. -/
def readWord (word : String) (value : Json) (cs : List Char) : Option (Json × List Char) :=
  if word.toList.isPrefixOf cs then some (value, cs.drop word.length) else none

mutual

/-- The value at the front of the characters, and what is behind it. -/
def readValue (round : Rounding) : Nat → List Char → Option (Json × List Char)
  | 0, _ => none
  | fuel + 1, cs =>
    match skipBlanks cs with
    | [] => none
    | '"' :: rest => do
      let (s, r) ← readChars rest
      return (.text (String.ofList s), r)
    | '[' :: rest =>
      match skipBlanks rest with
      | ']' :: r => some (.array [], r)
      | r => do
        let (items, r) ← readItems round fuel r
        return (.array items, r)
    | '\x7b' :: rest =>
      match skipBlanks rest with
      | '\x7d' :: r => some (.object [], r)
      | r => do
        let (members, r) ← readMembers round fuel r
        return (.object members, r)
    | 'n' :: rest => readWord "ull" .null rest
    | 't' :: rest => readWord "rue" (.bool true) rest
    | 'f' :: rest => readWord "alse" (.bool false) rest
    | rest => readNumber round rest

/-- The items up to the closing bracket. -/
def readItems (round : Rounding) : Nat → List Char → Option (List Json × List Char)
  | 0, _ => none
  | fuel + 1, cs => do
    let (item, rest) ← readValue round fuel cs
    match skipBlanks rest with
    | ',' :: r =>
      let (items, r) ← readItems round fuel r
      return (item :: items, r)
    | ']' :: r => return ([item], r)
    | _ => none

/-- The members up to the closing brace. -/
def readMembers (round : Rounding) : Nat → List Char → Option (List (String × Json) × List Char)
  | 0, _ => none
  | fuel + 1, cs =>
    match skipBlanks cs with
    | '"' :: rest => do
      let (name, rest) ← readChars rest
      match skipBlanks rest with
      | ':' :: rest =>
        let (value, rest) ← readValue round fuel rest
        match skipBlanks rest with
        | ',' :: r =>
          let (members, r) ← readMembers round fuel r
          return ((String.ofList name, value) :: members, r)
        | '\x7d' :: r => return ([(String.ofList name, value)], r)
        | _ => none
      | _ => none
    | _ => none

end

/-- The value that a text holds, if it holds one and nothing else. -/
def readWith? (round : Rounding) (text : String) : Option Json := do
  let cs := text.toList
  let (value, rest) ← readValue round (2 * cs.length + 2) cs
  if (skipBlanks rest).isEmpty then return value else none

def read? (text : String) : Option Json := readWith? floating? text

end BoundSql.Json
