/-!
# String literals

A string literal stands between single quotes, and a quote inside it is written twice.
-/

namespace BoundSql.Text

namespace Literal

/-- The characters between the quotes of a literal. -/
def escape : List Char → List Char
  | [] => []
  | c :: cs => if c = '\'' then '\'' :: '\'' :: escape cs else c :: escape cs

end Literal

/-- The text as a string literal. -/
def literal (text : String) : String :=
  String.ofList ('\'' :: Literal.escape text.toList ++ ['\''])

end BoundSql.Text
