import BoundSql.Text.Quoted

/-!
# Errors

Why a statement cannot be built, and why a rendered statement has no single generated key.
-/

namespace BoundSql

/-- A part that a statement cannot be without. -/
inductive RequiredPart where
  | selectList
  | insertMappings
  | records
  | setClause
  /-- A part that a statement kind of the caller's own asks for. -/
  | named (name : String)
  deriving DecidableEq

def RequiredPart.text : RequiredPart → String
  | .selectList => "select list"
  | .insertMappings => "insert mappings"
  | .records => "records"
  | .setClause => "set clause"
  | .named name => name

/-- What can go wrong with a statement. -/
inductive StatementError where
  /-- The statement was built without one of its parts. -/
  | missing (part : RequiredPart)
  /-- The statement generates several keys, or another number than one. -/
  | ambiguousKey (found : Nat) (columns : List String)
  /-- The statement generates no key. -/
  | noKey
  deriving DecidableEq

namespace StatementError

/-- What the error is reported as. -/
def message : StatementError → String
  | .missing part => "Invalid argument: " ++ part.text ++ " is required"
  | .ambiguousKey found columns =>
    "Expected exactly one generated key column, found " ++ toString found ++ ": " ++
      Text.quotedList columns
  | .noKey => "Expected exactly one generated key column, found none"

def isMissingPart : StatementError → Bool
  | .missing _ => true
  | _ => false

def isAboutKey : StatementError → Bool
  | .missing _ => false
  | _ => true

end StatementError

end BoundSql
