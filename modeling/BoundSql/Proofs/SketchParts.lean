import BoundSql.Proofs.Elision
import BoundSql.Proofs.Sketch

/-!
# What a composed sketch contains

Marks are read off a sketch by a function that gives nothing for the words of the language. A
composed sketch then contains what its parts contain, in their order: what stands between the parts
are words. Of a where clause the parts are the atoms of its criteria (`flatMap_whereSketch`).
-/

namespace BoundSql

open Sketch

section Silent

variable {β : Type} {f : Mark → List β} (silent : ∀ s, f (.word s) = [])

include silent

namespace Sketch

theorem flatMap_between (opening closing : String) (s : Sketch) :
    List.flatMap f (between opening s closing) = List.flatMap f s := by
  simp [between, silent]

omit silent in
theorem flatMap_intercalate_of_nil {separator : Sketch} (none : List.flatMap f separator = []) :
    ∀ parts : List Sketch,
      List.flatMap f (List.intercalate separator parts) = parts.flatMap (List.flatMap f)
  | [] => rfl
  | [part] => by simp
  | part :: next :: parts => by
    have ih := flatMap_intercalate_of_nil none (next :: parts)
    simp only [List.intercalate_cons_cons, List.flatMap_cons, List.flatMap_append, none,
      List.append_nil] at ih ⊢
    rw [ih]

theorem flatMap_join (separator : String) (parts : List Sketch) :
    List.flatMap f (join separator parts) = parts.flatMap (List.flatMap f) :=
  flatMap_intercalate_of_nil (by simp [silent]) parts

theorem flatMap_joinBySign (unnamed : ∀ s, f (.reference s) = []) (sign : String)
    (parts : List Sketch) :
    List.flatMap f (joinBySign sign parts) = parts.flatMap (List.flatMap f) :=
  flatMap_intercalate_of_nil (by simp [silent, unnamed]) parts

end Sketch

mutual

theorem Item.flatMap_tokens : ∀ i : Item Sketch,
    List.flatMap f (tokensSketch i.tokens) = i.atoms.flatMap (List.flatMap f)
  | .atom a => by simp [Item.tokens, Item.atoms, tokensSketch, Token.sketch]
  | .group first (k, second) rest => by
    have head := Item.flatMap_tokens first
    have next := Item.flatMap_tokens second
    have behind := flatMap_tailTokens rest
    simp only [Item.tokens, tokensSketch_cons, tokensSketch_append, List.flatMap_append, head,
      next, behind, Item.atoms]
    simp [Token.sketch, tokensSketch, silent]

theorem flatMap_tailTokens : ∀ rest : List (Connector × Item Sketch),
    List.flatMap f (tokensSketch (tailTokens rest)) = (tailAtoms rest).flatMap (List.flatMap f)
  | [] => rfl
  | (k, i) :: rest => by
    have head := Item.flatMap_tokens i
    have behind := flatMap_tailTokens rest
    simp only [tailTokens, tokensSketch_cons, tokensSketch_append, List.flatMap_append, head,
      behind, tailAtoms]
    simp [Token.sketch, silent]

end

theorem flatMap_whereSketch (outlines : List (Outline Sketch)) :
    (whereSketch outlines).toList.flatMap (List.flatMap f) =
      (outlinesAtoms outlines).flatMap (List.flatMap f) := by
  rw [← tailAtoms_itemsOf, whereSketch, Clause.elided]
  rcases itemsOf outlines with _ | ⟨⟨k, first⟩, rest⟩
  · rfl
  · have head := Item.flatMap_tokens silent first
    have behind := flatMap_tailTokens silent rest
    simp [Clause.tokens, tokensSketch_append, head, behind, tailAtoms, silent]

end Silent

end BoundSql
