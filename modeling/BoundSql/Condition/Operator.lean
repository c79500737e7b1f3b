/-!
# Comparison operators
-/

namespace BoundSql

/-- How a condition compares its column. -/
inductive Operator where
  | isNull | isNotNull | equalTo | notEqualTo | greaterThan | greaterThanOrEqualTo
  | lessThan | lessThanOrEqualTo | like | notLike | between | notBetween | isIn | isNotIn
  deriving DecidableEq

namespace Operator

def keyword : Operator → String
  | .isNull => "is null"
  | .isNotNull => "is not null"
  | .equalTo => "="
  | .notEqualTo => "<>"
  | .greaterThan => ">"
  | .greaterThanOrEqualTo => ">="
  | .lessThan => "<"
  | .lessThanOrEqualTo => "<="
  | .like => "like"
  | .notLike => "not like"
  | .between => "between"
  | .notBetween => "not between"
  | .isIn => "in"
  | .isNotIn => "not in"

/-- The name diagnostics show. -/
def label : Operator → String
  | .isNull => "IsNull"
  | .isNotNull => "IsNotNull"
  | .equalTo => "EqualTo"
  | .notEqualTo => "NotEqualTo"
  | .greaterThan => "GreaterThan"
  | .greaterThanOrEqualTo => "GreaterThanOrEqualTo"
  | .lessThan => "LessThan"
  | .lessThanOrEqualTo => "LessThanOrEqualTo"
  | .like => "Like"
  | .notLike => "NotLike"
  | .between => "Between"
  | .notBetween => "NotBetween"
  | .isIn => "In"
  | .isNotIn => "NotIn"

end Operator

end BoundSql
