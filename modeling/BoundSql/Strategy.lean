import BoundSql.Schema.DataType

/-!
# Placeholder strategies

A `Strategy` decides, for each bound value, the placeholder that stands in the statement and the key
of the value among the parameters. The built-in strategies all keep the parameter's name as its key,
except `Strategy.numbered`, whose keys are the bare numbers.
-/

namespace BoundSql

/-- A value about to be bound, as a strategy sees it. -/
structure Binding where
  /-- The position of the value in the statement. -/
  sequence : Nat
  /-- The name of the parameter. -/
  name : String
  /-- The type of the column the value belongs to, if it belongs to one. -/
  dataType : Option DataType

/-- A way to write placeholders and to key parameters. -/
structure Strategy where
  /-- The name diagnostics show. -/
  label : String
  placeholder : Binding → String
  key : Binding → String := Binding.name

namespace Strategy

/-- Positional placeholders `$1`, `$2`, … -/
def postgres : Strategy where
  label := "PostgresStrategy"
  placeholder b := "$" ++ toString b.sequence

/-- Named placeholders `:p1`, `:p2`, … -/
def named : Strategy where
  label := "NamedStrategy"
  placeholder b := ":" ++ b.name

/-- Placeholders `?1`, `?2`, … keyed by their number. -/
def numbered : Strategy where
  label := "NumberedStrategy"
  placeholder b := "?" ++ toString b.sequence
  key b := toString b.sequence

/-- MyBatis placeholders, which show the type where there is one. -/
def myBatis : Strategy where
  label := "MyBatisStrategy"
  placeholder b :=
    let type := match b.dataType with
      | some t => ",jdbcType=" ++ t.jdbcName
      | none => ""
    "#\x7bparameters." ++ b.name ++ type ++ "\x7d"

/-- Positional placeholders cast to `jsonb`. -/
def postgresJson : Strategy where
  label := "PostgresJsonStrategy"
  placeholder b := "$" ++ toString b.sequence ++ "::jsonb"

def builtIn : List Strategy :=
  [postgres, named, numbered, myBatis, postgresJson]

end Strategy

end BoundSql
