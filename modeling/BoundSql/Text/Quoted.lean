import BoundSql.Text.UnprintableTable

/-!
# Quoted text

The form in which diagnostics show a text: between double quotes, with the quote, the backslash and
the common controls behind a backslash, and every other character without a picture of its own as
its code point.
-/

namespace BoundSql.Text

namespace Quoted

/-- The character has no picture of its own. -/
def isUnprintable (c : Char) : Bool :=
  unprintable.any fun (first, last) => first ≤ c.toNat && c.toNat ≤ last

/-- The code point as `\u{...}` in lower-case hexadecimal without padding. -/
def codePoint (c : Char) : List Char :=
  "\\u\x7b".toList ++ Nat.toDigits 16 c.toNat ++ "\x7d".toList

/-- How one character stands between the quotes. -/
def escape (c : Char) : List Char :=
  match c with
  | '"' => ['\\', '"']
  | '\\' => ['\\', '\\']
  | '\n' => ['\\', 'n']
  | '\r' => ['\\', 'r']
  | '\t' => ['\\', 't']
  | '\x00' => ['\\', '0']
  | c => if isUnprintable c then codePoint c else [c]

end Quoted

/-- The text as diagnostics show it. -/
def quoted (text : String) : String :=
  String.ofList ('"' :: text.toList.flatMap Quoted.escape ++ ['"'])

/-- A list of texts as diagnostics show it. -/
def quotedList (texts : List String) : String :=
  "[" ++ String.intercalate ", " (texts.map quoted) ++ "]"

end BoundSql.Text
