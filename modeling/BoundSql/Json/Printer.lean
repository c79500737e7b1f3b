import BoundSql.Decimal.Layout
import BoundSql.Json.Basic

/-!
# Compact JSON text

`Json.print` writes a value without blanks. Inside a string the quote, the backslash and the
controls below the space are escaped, and every other character stands for itself.
-/

namespace BoundSql.Json

/-- Numbers are positional from `0.00001` up to sixteen digits, keep a point, and NaN and the
infinities, which have no JSON text, are written as `null`. -/
def numberLayout : Decimal.Layout where
  tie := .even
  positional point := -5 < point && point ≤ 16
  pointZero := true
  notANumber := "null"
  positiveInfinity := "null"
  negativeInfinity := "null"

def hexDigit (n : Nat) : Char := Nat.digitChar n

/-- How one character stands inside a string. -/
def escape (c : Char) : List Char :=
  match c with
  | '"' => ['\\', '"']
  | '\\' => ['\\', '\\']
  | '\x08' => ['\\', 'b']
  | '\x0c' => ['\\', 'f']
  | '\n' => ['\\', 'n']
  | '\r' => ['\\', 'r']
  | '\t' => ['\\', 't']
  | c =>
    if c.toNat < 0x20 then
      ['\\', 'u', '0', '0', hexDigit (c.toNat / 16), hexDigit (c.toNat % 16)]
    else [c]

/-- A string with its quotes. -/
def printString (s : String) : List Char :=
  '"' :: s.toList.flatMap escape ++ ['"']

mutual

/-- The characters of a value. -/
def chars : Json → List Char
  | .null => "null".toList
  | .bool b => (if b then "true" else "false").toList
  | .int n => (toString n).toList
  | .float x => (numberLayout.text x).toList
  | .text s => printString s
  | .array [] => ['[', ']']
  | .array (item :: items) => '[' :: chars item ++ itemsChars items ++ [']']
  | .object [] => ['\x7b', '\x7d']
  | .object ((name, value) :: members) =>
    '\x7b' :: printString name ++ ':' :: chars value ++ membersChars members ++ ['\x7d']

/-- The items after the first, each behind a comma. -/
def itemsChars : List Json → List Char
  | [] => []
  | item :: items => ',' :: chars item ++ itemsChars items

/-- The members after the first, each behind a comma. -/
def membersChars : List (String × Json) → List Char
  | [] => []
  | (name, value) :: members =>
    ',' :: printString name ++ ':' :: chars value ++ membersChars members

end

/-- The compact text of a value. -/
def print (j : Json) : String :=
  String.ofList j.chars

end BoundSql.Json
