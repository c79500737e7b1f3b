import BoundSql.Condition.Operator
import BoundSql.Schema.Column
import BoundSql.Text.Uppercase

/-!
# Conditions

A condition compares a column with an operand: nothing, one value, a pair, a list, another column or
a sub-query. Every condition has a gate. A closed one holds no values, is left out of the statement
when it is rendered, and never makes a rendering fail; the gate of a list is closed when the list is
empty.

Conditions are made with a constructor for the shape of the operand, and those for present values
(`singleWhenPresent` and its kin) close the gate when a value is absent.
-/

namespace BoundSql

/-- What a column is compared with, for sub-queries of type `σ` and values of type `α`. -/
inductive Operand (σ α : Type) where
  | noValue (isOpen : Bool)
  | single (value : Option α)
  | pair (values : Option (α × α))
  | list (values : List α)
  | column (other : Option Column)
  | select (query : Option σ)

namespace Operand

variable {σ α : Type}

def isOpen : Operand σ α → Bool
  | .noValue isOpen => isOpen
  | .single value => value.isSome
  | .pair values => values.isSome
  | .list values => !values.isEmpty
  | .column other => other.isSome
  | .select query => query.isSome

/-- An operand of the same shape with its gate closed. -/
def close : Operand σ α → Operand σ α
  | .noValue _ => .noValue false
  | .single _ => .single none
  | .pair _ => .pair none
  | .list _ => .list []
  | .column _ => .column none
  | .select _ => .select none

/-- The values in the order of their placeholders. -/
def values : Operand σ α → List α
  | .single (some v) => [v]
  | .pair (some (a, b)) => [a, b]
  | .list vs => vs
  | _ => []

@[simp]
theorem isOpen_close (o : Operand σ α) : o.close.isOpen = false := by
  cases o <;> rfl

/-- A closed gate holds no values. -/
theorem values_eq_nil_of_not_isOpen {o : Operand σ α} (h : o.isOpen = false) : o.values = [] := by
  cases o with
  | noValue _ => rfl
  | single v => cases v <;> simp_all [isOpen, values]
  | pair vs => cases vs <;> simp_all [isOpen, values]
  | list vs => simp_all [isOpen, values]
  | column _ => rfl
  | select _ => rfl

def isEmptyList : Operand σ α → Bool
  | .list [] => true
  | _ => false

end Operand

/-- A comparison to be attached to a column. -/
structure Condition (σ α : Type) where
  operator : Operator
  operand : Operand σ α
  /-- The column is compared in upper case. -/
  upperColumn : Bool := false
  /-- What is reported when the condition is left out because its list is empty. -/
  onEmptyList : Option String := none

namespace Condition

variable {σ α : Type}

def isOpen (c : Condition σ α) : Bool := c.operand.isOpen

def isEmptyList (c : Condition σ α) : Bool := c.operand.isEmptyList

def values (c : Condition σ α) : List α := c.operand.values

def close (c : Condition σ α) : Condition σ α := { c with operand := c.operand.close }

/-! ## Making conditions -/

def isNull : Condition σ α := ⟨.isNull, .noValue true, false, none⟩

def isNotNull : Condition σ α := ⟨.isNotNull, .noValue true, false, none⟩

def single (op : Operator) (value : α) : Condition σ α := ⟨op, .single (some value), false, none⟩

/-- A comparison with one value, closed if there is none. -/
def singleWhenPresent (op : Operator) (value : Option α) : Condition σ α :=
  ⟨op, .single value, false, none⟩

def pair (op : Operator) (a b : α) : Condition σ α := ⟨op, .pair (some (a, b)), false, none⟩

/-- A comparison with two bounds, closed unless both are there. -/
def pairWhenPresent (op : Operator) (a b : Option α) : Condition σ α :=
  ⟨op, .pair (a.bind fun x => b.map fun y => (x, y)), false, none⟩

def list (op : Operator) (values : List α) : Condition σ α := ⟨op, .list values, false, none⟩

/-- A comparison with the elements of a list that are there. -/
def listWhenPresent (op : Operator) (values : List (Option α)) : Condition σ α :=
  ⟨op, .list (values.filterMap id), false, none⟩

def column (op : Operator) (other : Column) : Condition σ α :=
  ⟨op, .column (some other), false, none⟩

def select (op : Operator) (query : σ) : Condition σ α :=
  ⟨op, .select (some query), false, none⟩

def isTrue : Condition σ Bool := single .equalTo true

def isFalse : Condition σ Bool := single .equalTo false

end Condition

end BoundSql
