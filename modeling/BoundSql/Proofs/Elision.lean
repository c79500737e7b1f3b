import BoundSql.Proofs.WhereClause

/-!
# Elision looks at no test

The criteria of a where clause are elided by their shape alone. What the live ones test is kept, all
of it and in its order (`tailAtoms_itemsOf`), and putting other tests in their places changes the
clause in these places only (`itemsOf_map`).
-/

namespace BoundSql

variable {α β : Type}

mutual

/-- The atoms of an item in reading order. -/
def Item.atoms : Item α → List α
  | .atom a => [a]
  | .group first (_, second) rest => first.atoms ++ (second.atoms ++ tailAtoms rest)

def tailAtoms : List (Connector × Item α) → List α
  | [] => []
  | (_, i) :: rest => i.atoms ++ tailAtoms rest

end

mutual

/-- What a criterion and those below it test, in reading order. -/
def Outline.atoms : Outline α → List α
  | ⟨_, own, children⟩ => own.toList ++ outlinesAtoms children

def outlinesAtoms : List (Outline α) → List α
  | [] => []
  | o :: os => o.atoms ++ outlinesAtoms os

end

theorem Item.atoms_with (first : Item α) : ∀ rest : List (Connector × Item α),
    (first.with rest).atoms = first.atoms ++ tailAtoms rest
  | [] => (List.append_nil _).symm
  | (_, _) :: _ => rfl

theorem Item.atoms_headed? (own : Option α) (items : List (Connector × Item α)) :
    ((Item.headed? own items).map Item.atoms).getD [] = own.toList ++ tailAtoms items := by
  rcases own with _ | a
  · rcases items with _ | ⟨⟨k, first⟩, rest⟩
    · rfl
    · exact first.atoms_with rest
  · exact Item.atoms_with (.atom a) items

mutual

theorem Outline.atoms_item? : ∀ o : Outline α, (o.item?.map Item.atoms).getD [] = o.atoms
  | ⟨_, own, children⟩ => by
    rw [Outline.item?, Item.atoms_headed?, tailAtoms_itemsOf children, Outline.atoms]

/-- Elision drops nothing that is tested, and keeps the order. -/
theorem tailAtoms_itemsOf : ∀ os : List (Outline α), tailAtoms (itemsOf os) = outlinesAtoms os
  | [] => rfl
  | o :: os => by
    have first := Outline.atoms_item? o
    have rest := tailAtoms_itemsOf os
    rw [itemsOf, outlinesAtoms, ← first, ← rest]
    rcases o.item? with _ | i <;> rfl

end

/-! ## Other tests in the same places -/

variable (f : α → β)

mutual

def Item.map : Item α → Item β
  | .atom a => .atom (f a)
  | .group first (k, second) rest => .group first.map (k, second.map) (tailMap rest)

def tailMap : List (Connector × Item α) → List (Connector × Item β)
  | [] => []
  | (k, i) :: rest => (k, i.map) :: tailMap rest

end

mutual

def Outline.map : Outline α → Outline β
  | ⟨connector, own, children⟩ => ⟨connector, own.map f, outlinesMap children⟩

def outlinesMap : List (Outline α) → List (Outline β)
  | [] => []
  | o :: os => o.map :: outlinesMap os

end

theorem Item.map_with (first : Item α) : ∀ rest : List (Connector × Item α),
    (first.with rest).map f = (first.map f).with (tailMap f rest)
  | [] => rfl
  | (_, _) :: _ => rfl

theorem Item.map_headed? (own : Option α) (items : List (Connector × Item α)) :
    Item.headed? (own.map f) (tailMap f items) = (Item.headed? own items).map (Item.map f) := by
  rcases own with _ | a
  · rcases items with _ | ⟨⟨k, first⟩, rest⟩
    · rfl
    · exact congrArg some (first.map_with f rest).symm
  · exact congrArg some (Item.map_with f (.atom a) items).symm

mutual

theorem Outline.item?_map : ∀ o : Outline α, (o.map f).item? = o.item?.map (Item.map f)
  | ⟨_, own, children⟩ => by
    rw [Outline.map, Outline.item?, Outline.item?, itemsOf_map children, Item.map_headed?]

/-- What is elided does not depend on what the criteria test, but on whether they do. -/
theorem itemsOf_map : ∀ os : List (Outline α), itemsOf (outlinesMap f os) = tailMap f (itemsOf os)
  | [] => rfl
  | ⟨connector, own, children⟩ :: os => by
    have first := Outline.item?_map ⟨connector, own, children⟩
    have rest := itemsOf_map os
    rw [outlinesMap, itemsOf, itemsOf, first, rest]
    rcases Outline.item? _ with _ | i <;> rfl

end

def Token.map : Token α → Token β
  | .atom a => .atom (f a)
  | .opening => .opening
  | .closing => .closing
  | .connector k => .connector k

mutual

theorem Item.tokens_map : ∀ i : Item α, (i.map f).tokens = i.tokens.map (Token.map f)
  | .atom a => rfl
  | .group first (k, second) rest => by
    have head := Item.tokens_map first
    have next := Item.tokens_map second
    have behind := tailTokens_map rest
    simp [Item.map, Item.tokens, head, next, behind, Token.map]

theorem tailTokens_map : ∀ rest : List (Connector × Item α),
    tailTokens (tailMap f rest) = (tailTokens rest).map (Token.map f)
  | [] => rfl
  | (k, i) :: rest => by
    have head := Item.tokens_map i
    have behind := tailTokens_map rest
    simp [tailMap, tailTokens, head, behind, Token.map]

end

end BoundSql
