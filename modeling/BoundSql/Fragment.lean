import BoundSql.Parameters

/-!
# Fragments

A fragment is a piece of a statement with the parameters it binds. A `Collector` puts fragments
together: their texts are joined in order, and their parameters go into one set, which is where two
equal keys meet as a `Collision`.
-/

namespace BoundSql

/-- A piece of a statement with its parameters. -/
structure Fragment where
  text : String
  parameters : Parameters

namespace Fragment

/-- A fragment that binds nothing. -/
def ofText (text : String) : Fragment := ⟨text, .empty⟩

/-- The fragment with a text before it. -/
def after (f : Fragment) (text : String) : Fragment := { f with text := text ++ f.text }

end Fragment

/-- Fragments collected so far. -/
structure Collector where
  texts : List String
  parameters : Parameters

namespace Collector

def empty : Collector := ⟨[], .empty⟩

/-- The collected fragments with one more behind them. -/
def add (c : Collector) (f : Fragment) : Except Collision Collector := do
  return ⟨c.texts ++ [f.text], ← c.parameters.merge f.parameters⟩

/-- The collected fragments with more behind them. -/
def addAll (c : Collector) : List Fragment → Except Collision Collector
  | [] => .ok c
  | f :: fs => do (← c.add f).addAll fs

theorem texts_of_add {c d : Collector} {f : Fragment} (h : c.add f = .ok d) :
    d.texts = c.texts ++ [f.text] := by
  unfold add at h
  rcases merged : c.parameters.merge f.parameters with e | parameters <;> rw [merged] at h
  · cases h
  · cases h
    rfl

theorem texts_of_addAll : ∀ {fragments : List Fragment} {c d : Collector},
    c.addAll fragments = .ok d → d.texts = c.texts ++ fragments.map Fragment.text
  | [], c, d, h => by
    cases h
    rw [List.map_nil, List.append_nil]
  | f :: fs, c, d, h => by
    unfold addAll at h
    rcases added : c.add f with e | mid <;> rw [added] at h
    · cases h
    · rw [texts_of_addAll (c := mid) h, texts_of_add added, List.append_assoc]
      rfl

def ofList (fragments : List Fragment) : Except Collision Collector :=
  empty.addAll fragments

def isEmpty (c : Collector) : Bool := c.texts.isEmpty

def size (c : Collector) : Nat := c.texts.length

def hasMultiple (c : Collector) : Bool := 1 < c.size

/-- The fragments with a separator between them. -/
def join (c : Collector) (separator : String) : Fragment :=
  ⟨String.intercalate separator c.texts, c.parameters⟩

/-- The fragments with a separator between them and texts around the whole. -/
def wrapped (c : Collector) (separator opening closing : String) : Fragment :=
  ⟨opening ++ String.intercalate separator c.texts ++ closing, c.parameters⟩

/-- The fragments with blanks between them, in parentheses if there is more than one. -/
def grouped (c : Collector) : Fragment :=
  if c.hasMultiple then c.wrapped " " "(" ")" else c.join " "

end Collector

end BoundSql
