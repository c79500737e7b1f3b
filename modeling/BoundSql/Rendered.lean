import BoundSql.Error
import BoundSql.Rendering.Statement

/-!
# Rendered statements

`Statement.render` renders a statement on its own: the values are numbered from one, no table has an
alias from outside, and a report of the whole is the last event.
-/

namespace BoundSql

/-- A statement ready to be sent. -/
structure Rendered where
  sql : String
  parameters : Parameters
  kind : StatementKind
  /-- The names of the columns whose generated values come back. -/
  generatedKeys : List String := []

namespace Rendered

/-- The name of the one column whose generated value comes back. -/
def generatedKey (r : Rendered) : Except StatementError String :=
  match r.generatedKeys with
  | [key] => .ok key
  | [] => .error .noKey
  | keys => .error (.ambiguousKey keys.length keys)

/-- The JSON object of the statement. Without generated keys it has no member for them. -/
def toJson (r : Rendered) : Json :=
  let keys := if r.generatedKeys.isEmpty then []
    else [("generated_keys", Json.array (r.generatedKeys.map Json.text))]
  .object ([("sql", .text r.sql), ("parameters", r.parameters.toJson),
    ("kind", .text r.kind.text)] ++ keys)

end Rendered

/-- The text of a statement as it is reported, cut off behind the given number of characters. -/
def reportedSql (limit : Option Nat) (sql : String) : String :=
  match limit with
  | some n => if n < sql.length then String.ofList (sql.toList.take n) ++ "..." else sql
  | none => sql

/-- The statement rendered on its own, and the events of its rendering. -/
def Statement.render (config : Config) (s : Statement) :
    Except Collision (Rendered × List Event) := do
  let (fragment, progress) ← (Rendering.renderStatement config .empty s).run {}
  let summary := Event.rendered s.kind fragment.parameters.size
    (reportedSql config.reportLimit fragment.text)
  return (⟨fragment.text, fragment.parameters, s.kind, s.generatedKeys⟩,
    progress.events ++ [summary])

end BoundSql
