/-!
# Column types

The declared type of a column. It never restricts the values bound to the column; placeholders can
show it under its JDBC name.
-/

namespace BoundSql

/-- The declared type of a column. -/
inductive DataType where
  | boolean | smallInt | integer | bigInt | real | double | numeric | char | varchar | text
  | date | timestamp | timestampTz | uuid | json | jsonb | bytea | other
  deriving DecidableEq

namespace DataType

/-- The name diagnostics show. -/
def label : DataType → String
  | .boolean => "Boolean"
  | .smallInt => "SmallInt"
  | .integer => "Integer"
  | .bigInt => "BigInt"
  | .real => "Real"
  | .double => "Double"
  | .numeric => "Numeric"
  | .char => "Char"
  | .varchar => "Varchar"
  | .text => "Text"
  | .date => "Date"
  | .timestamp => "Timestamp"
  | .timestampTz => "TimestampTz"
  | .uuid => "Uuid"
  | .json => "Json"
  | .jsonb => "Jsonb"
  | .bytea => "Bytea"
  | .other => "Other"

def jdbcName : DataType → String
  | .boolean => "BOOLEAN"
  | .smallInt => "SMALLINT"
  | .integer => "INTEGER"
  | .bigInt => "BIGINT"
  | .real => "REAL"
  | .double => "DOUBLE"
  | .numeric => "NUMERIC"
  | .char => "CHAR"
  | .varchar => "VARCHAR"
  | .text => "LONGVARCHAR"
  | .date => "DATE"
  | .timestamp => "TIMESTAMP"
  | .timestampTz => "TIMESTAMP_WITH_TIMEZONE"
  | .bytea => "BINARY"
  | .uuid | .json | .jsonb | .other => "OTHER"

def all : List DataType :=
  [.boolean, .smallInt, .integer, .bigInt, .real, .double, .numeric, .char, .varchar, .text,
   .date, .timestamp, .timestampTz, .uuid, .json, .jsonb, .bytea, .other]

def ofLabel? (label : String) : Option DataType := all.find? fun t => t.label == label

/-- Reading a name gives back what it names. -/
theorem ofLabel?_label (t : DataType) : ofLabel? t.label = some t := by
  cases t <;> rfl

end DataType

end BoundSql
