import BoundSql.Fragment
import BoundSql.Schema.Column
import BoundSql.Statement

/-!
# Rendering

A rendering numbers the bound values as it meets them. Its state, `Progress`, is the number of the
next one and the events reported so far; it ends early only when two parameters collide.
-/

namespace BoundSql

/-- How statements are rendered. -/
structure Config where
  /-- The strategy of values whose column has none of its own. -/
  strategy : Strategy := Strategy.postgres
  /-- What the names of parameters start with. -/
  stem : String := "p"
  /-- How many characters of a statement are reported, if there is a limit. -/
  reportLimit : Option Nat := some 200

/-- Something a rendering reports. -/
inductive Event where
  /-- A condition that asked for a report was left out because its list is empty. -/
  | emptyList (label : String)
  /-- A condition was left out because its list is empty. -/
  | elided (table column : String)
  /-- A statement was rendered. -/
  | rendered (kind : StatementKind) (parameterCount : Nat) (sql : String)
  deriving DecidableEq

/-- How far a rendering has come. -/
structure Progress where
  /-- The number of the next bound value. -/
  next : Nat := 1
  events : List Event := []

/-- A computation that binds values. -/
abbrev Rendering := StateT Progress (Except Collision)

namespace Rendering

section Runs

variable {α β : Type} {m : Rendering α} {f : α → Rendering β} {start mid : Progress} {a : α}
  {r : β × Progress}

theorem run_bind_of_ok (h : m.run start = .ok (a, mid)) :
    (m >>= f).run start = (f a).run mid := by
  rw [StateT.run_bind, h]
  rfl

theorem run_bind_inv (h : (m >>= f).run start = .ok r) :
    ∃ a mid, m.run start = .ok (a, mid) ∧ (f a).run mid = .ok r := by
  rw [StateT.run_bind] at h
  rcases first : m.run start with c | ⟨a, mid⟩ <;> rw [first] at h
  · cases h
  · exact ⟨a, mid, rfl, h⟩

theorem run_lift_inv {e : Except Collision α}
    (h : (liftM e : Rendering α).run start = .ok (a, mid)) : e = .ok a ∧ mid = start := by
  rcases e with c | b
  · cases h
  · cases h
    exact ⟨rfl, rfl⟩

end Runs

def report (event : Event) : Rendering Unit :=
  modify fun progress => { progress with events := progress.events ++ [event] }

/-- What a strategy sees of a value that is bound as number `next`. -/
def bindingOf (config : Config) (column : Option Column) (next : Nat) : Binding :=
  ⟨next, config.stem ++ toString next, column.map Column.dataType⟩

/-- The strategy of a column's own, or that of the statement. -/
def strategyOf (config : Config) (column : Option Column) : Strategy :=
  (column.bind Column.strategy).getD config.strategy

/-- Binds a value among the given parameters, and gives its placeholder. -/
def bindValue (config : Config) (column : Option Column) (value : Value) (into : Parameters) :
    Rendering (String × Parameters) := do
  let progress ← get
  let strategy := strategyOf config column
  let binding := bindingOf config column progress.next
  let parameters ← into.insert (strategy.key binding) value
  set { progress with next := progress.next + 1 }
  return (strategy.placeholder binding, parameters)

/-- Binds values one after the other, and gives their placeholders. -/
def bindValues (config : Config) (column : Option Column) :
    List Value → Parameters → Rendering (List String × Parameters)
  | [], into => return ([], into)
  | v :: vs, into => do
    let (placeholder, into) ← bindValue config column v into
    let (placeholders, into) ← bindValues config column vs into
    return (placeholder :: placeholders, into)

/-- A placeholder with the one value it binds. -/
def bindFragment (config : Config) (column : Option Column) (value : Value) :
    Rendering Fragment := do
  let (placeholder, parameters) ← bindValue config column value .empty
  return ⟨placeholder, parameters⟩

/-- Renders fragments one after the other and collects each before the next. -/
def collect (collector : Collector) : List (Rendering Fragment) → Rendering Collector
  | [] => return collector
  | f :: fs => do
    let fragment ← f
    collect (← collector.add fragment) fs

end Rendering

end BoundSql
