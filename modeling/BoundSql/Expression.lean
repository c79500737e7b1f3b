import BoundSql.Schema.Column
import BoundSql.Text.Literal

/-!
# Expressions

The expressions of select lists and of `group by`. They bind no values, so their text depends on the
aliases in scope alone. Every operator stands in parentheses of its own, so that nesting never rests
on precedence. The names of functions, aggregates and operators can be any texts; `Expression.call`,
`Expression.arithmetic` and the like build those that are usual.
-/

namespace BoundSql

/-- An expression of a select list. -/
inductive Expression where
  | column (c : Column)
  /-- A text that is written as it is. -/
  | constant (text : String)
  /-- A text that is written as a string literal. -/
  | stringConstant (text : String)
  /-- A function of one argument. -/
  | function (name : String) (argument : Expression)
  | substring (argument : Expression) (offset length : Nat)
  /-- An aggregate, of all rows if it has no argument. -/
  | aggregate (name : String) (argument : Option Expression) (distinct : Bool)
  /-- Any number of operands with the sign of an operator between them. -/
  | operator (sign : String) (operands : List Expression)

namespace Expression

mutual

def render (scope : Scope) : Expression → String
  | .column c => c.qualified scope
  | .constant text => text
  | .stringConstant text => Text.literal text
  | .function name argument => name ++ "(" ++ render scope argument ++ ")"
  | .substring argument offset length =>
    "substring(" ++ render scope argument ++ ", " ++ toString offset ++ ", " ++
      toString length ++ ")"
  | .aggregate name none _ => name ++ "(*)"
  | .aggregate name (some argument) distinct =>
    name ++ (if distinct then "(distinct " else "(") ++ render scope argument ++ ")"
  | .operator sign operands =>
    "(" ++ String.intercalate (" " ++ sign ++ " ") (renderAll scope operands) ++ ")"

def renderAll (scope : Scope) : List Expression → List String
  | [] => []
  | e :: es => render scope e :: renderAll scope es

end

end Expression

/-- A function of one argument that is usual in SQL, or an aggregate. -/
inductive SqlFunction where
  | upper | lower | count | countDistinct | max | min | avg | sum
  deriving DecidableEq

/-- An operator of two numbers. -/
inductive Arithmetic where
  | add | subtract | multiply | divide
  deriving DecidableEq

def Arithmetic.sign : Arithmetic → String
  | .add => "+"
  | .subtract => "-"
  | .multiply => "*"
  | .divide => "/"

namespace Expression

def call : SqlFunction → Expression → Expression
  | .upper, argument => .function "upper" argument
  | .lower, argument => .function "lower" argument
  | .count, argument => .aggregate "count" (some argument) false
  | .countDistinct, argument => .aggregate "count" (some argument) true
  | .max, argument => .aggregate "max" (some argument) false
  | .min, argument => .aggregate "min" (some argument) false
  | .avg, argument => .aggregate "avg" (some argument) false
  | .sum, argument => .aggregate "sum" (some argument) false

def countAll : Expression := .aggregate "count" none false

def arithmetic (op : Arithmetic) (left right : Expression) : Expression :=
  .operator op.sign [left, right]

def concatenate (parts : List Expression) : Expression := .operator "||" parts

end Expression

/-- An entry of a select list. -/
structure SelectItem where
  expression : Expression
  asName : Option String := none

namespace SelectItem

/-- A column under its own alias. -/
def ofColumn (c : Column) : SelectItem := ⟨.column c, c.asName⟩

def render (item : SelectItem) (scope : Scope) : String :=
  match item.asName with
  | some asName => item.expression.render scope ++ " as " ++ asName
  | none => item.expression.render scope

end SelectItem

/-- An entry of `order by`. -/
structure SortSpec where
  name : String
  descending : Bool := false
  deriving DecidableEq

namespace SortSpec

/-- Sorting by a column, under its alias if it has one. -/
def ofColumn (c : Column) : SortSpec := ⟨c.sortName, false⟩

/-- The same name, from the largest down. -/
def reversed (s : SortSpec) : SortSpec := { s with descending := true }

def render (s : SortSpec) : String :=
  if s.descending then s.name ++ " desc" else s.name

end SortSpec

end BoundSql
