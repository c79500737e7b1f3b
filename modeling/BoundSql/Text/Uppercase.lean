import BoundSql.Text.UppercaseTable

/-!
# Upper case

`toUppercase` maps a text character by character: each character becomes the one to three
characters of its upper case, and a character without one stays. The mapping does not look at the
neighbours of a character.
-/

namespace BoundSql.Text

namespace Uppercase

/-- The shift of the first run that holds the code point. -/
def shiftOf (code : Nat) : Int :=
  match shifted.find? fun (first, last, step, _) =>
      first ≤ code && code ≤ last && (code - first) % step == 0 with
  | some (_, _, _, shift) => shift
  | none => 0

/-- The upper case of one character. -/
def ofChar (c : Char) : List Char :=
  match expanded.lookup c.toNat with
  | some codes => codes.map Char.ofNat
  | none => [Char.ofNat (c.toNat + shiftOf c.toNat).toNat]

end Uppercase

/-- The text with every character replaced by its upper case. -/
def toUppercase (text : String) : String :=
  String.ofList (text.toList.flatMap Uppercase.ofChar)

end BoundSql.Text
