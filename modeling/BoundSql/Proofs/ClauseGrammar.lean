import BoundSql.Query

/-!
# The grammar of where clauses

A clause is an item and more items behind it, each behind a connector; an item is an atom or, in
parentheses, at least two items with connectors between them. `Item` and `Clause` are the parse
trees of this grammar and `tokens` gives the sequence that a tree is a parse of.

`Clause.tokens_eq_iff` says that no sequence has two parses. An item can be told from what stands
behind it, whatever that is, as its parentheses match; the items behind connectors can be told from
what stands behind them if that does not start with a connector.
-/

namespace BoundSql

/-- What a where clause is a sequence of, if its conditions are not looked into. -/
inductive Token (α : Type) where
  | atom (a : α)
  | opening
  | closing
  | connector (k : Connector)

/-- An atom, or two items or more in parentheses. -/
inductive Item (α : Type) where
  | atom (a : α)
  | group (first : Item α) (second : Connector × Item α) (rest : List (Connector × Item α))

/-- An item and those behind it. -/
structure Clause (α : Type) where
  first : Item α
  rest : List (Connector × Item α)

variable {α : Type}

mutual

def Item.tokens : Item α → List (Token α)
  | .atom a => [.atom a]
  | .group first (k, second) rest =>
    .opening :: (first.tokens ++
      .connector k :: (second.tokens ++ (tailTokens rest ++ [.closing])))

/-- The tokens of items that stand behind connectors. -/
def tailTokens : List (Connector × Item α) → List (Token α)
  | [] => []
  | (k, i) :: rest => .connector k :: (i.tokens ++ tailTokens rest)

end

def Clause.tokens (c : Clause α) : List (Token α) := c.first.tokens ++ tailTokens c.rest

def Ended (rest : List (Token α)) : Prop := ∀ k others, rest ≠ .connector k :: others

theorem ended_nil : Ended ([] : List (Token α)) := by
  intro k others h
  cases h

theorem ended_closing (rest : List (Token α)) : Ended (.closing :: rest) := by
  intro k others h
  cases h

mutual

/-- Where an item ends is read off its tokens. -/
theorem Item.tokens_append_inj : ∀ (i j : Item α) {r s : List (Token α)},
    i.tokens ++ r = j.tokens ++ s → i = j ∧ r = s
  | .atom a, .atom b, r, s, h => by
    simp only [Item.tokens, List.cons_append, List.nil_append, List.cons.injEq,
      Token.atom.injEq] at h
    obtain ⟨rfl, rest⟩ := h
    exact ⟨rfl, rest⟩
  | .atom a, .group first (k, second) rest, r, s, h => by
    simp [Item.tokens] at h
  | .group first (k, second) rest, .atom b, r, s, h => by
    simp [Item.tokens] at h
  | .group first (k, second) rest, .group first' (k', second') rest', r, s, h => by
    simp only [Item.tokens, List.cons_append, List.append_assoc, List.nil_append, List.cons.injEq,
      true_and] at h
    obtain ⟨rfl, joint⟩ := Item.tokens_append_inj first first' h
    simp only [List.cons.injEq, Token.connector.injEq] at joint
    obtain ⟨rfl, others⟩ := joint
    obtain ⟨rfl, tails⟩ := Item.tokens_append_inj second second' others
    -- The group's own closing parenthesis ends the items behind connectors.
    obtain ⟨rfl, closed⟩ :=
      tailTokens_append_inj rest rest' (ended_closing r) (ended_closing s) tails
    exact ⟨rfl, (List.cons.inj closed).2⟩

theorem tailTokens_append_inj : ∀ (l m : List (Connector × Item α)) {r s : List (Token α)},
    Ended r → Ended s → tailTokens l ++ r = tailTokens m ++ s → l = m ∧ r = s
  | [], [], r, s, _, _, h => ⟨rfl, h⟩
  | [], (k, i) :: rest, r, s, hr, _, h => absurd h (hr k _)
  | (k, i) :: rest, [], r, s, _, hs, h => absurd h.symm (hs k _)
  | (k, i) :: rest, (k', i') :: rest', r, s, hr, hs, h => by
    simp only [tailTokens, List.cons_append, List.append_assoc, List.cons.injEq,
      Token.connector.injEq] at h
    obtain ⟨rfl, items⟩ := h
    obtain ⟨rfl, tails⟩ := Item.tokens_append_inj i i' items
    obtain ⟨rfl, ended⟩ := tailTokens_append_inj rest rest' hr hs tails
    exact ⟨rfl, ended⟩

end

/-- The grammar is unambiguous. -/
theorem Clause.tokens_eq_iff (c d : Clause α) : c.tokens = d.tokens ↔ c = d := by
  refine ⟨?_, fun h => h ▸ rfl⟩
  intro h
  obtain ⟨first, rest⟩ := c
  obtain ⟨first', rest'⟩ := d
  obtain ⟨rfl, tails⟩ := Item.tokens_append_inj first first' h
  have ended : tailTokens rest ++ [] = tailTokens rest' ++ [] := by rw [tails]
  obtain ⟨rfl, -⟩ := tailTokens_append_inj rest rest' ended_nil ended_nil ended
  rfl

/-- The text of a token. Blanks stand around connectors only. -/
def Token.text : Token String → String
  | .atom a => a
  | .opening => "("
  | .closing => ")"
  | .connector k => " " ++ k.keyword ++ " "

def printed : List (Token String) → String
  | [] => ""
  | t :: ts => t.text ++ printed ts

@[simp] theorem printed_append (ts us : List (Token String)) :
    printed (ts ++ us) = printed ts ++ printed us := by
  induction ts with
  | nil => exact String.empty_append.symm
  | cons t ts ih => rw [List.cons_append, printed, printed, ih, String.append_assoc]

/-- The text of an item behind its connector. -/
def tailText (tail : Connector × Item String) : String :=
  tail.1.keyword ++ " " ++ printed tail.2.tokens

theorem printed_tail (first : String) : ∀ rest : List (Connector × Item String),
    String.intercalate " " (first :: rest.map tailText) = first ++ printed (tailTokens rest)
  | [] => by simp [tailTokens, printed]
  | (k, i) :: rest => by
    have behind := printed_tail (tailText (k, i)) rest
    rw [List.map_cons, String.intercalate_cons_cons, behind, tailTokens, printed, printed_append]
    simp only [tailText, Token.text, String.append_assoc]

theorem Clause.printed_tokens (c : Clause String) :
    printed c.tokens = String.intercalate " " (printed c.first.tokens :: c.rest.map tailText) := by
  rw [printed_tail, Clause.tokens, printed_append]

example :
    printed (Clause.tokens ⟨.group (.atom "a") (.or, .atom "b") [], [(.and, .atom "c")]⟩) =
      "(a or b) and c" := by
  rfl

/-- The text of a group, as items with blanks between them and parentheses around. -/
theorem Item.printed_group (first : Item String) (second : Connector × Item String)
    (rest : List (Connector × Item String)) :
    printed (Item.group first second rest).tokens =
      "(" ++ String.intercalate " " (printed first.tokens :: (second :: rest).map tailText) ++
        ")" := by
  obtain ⟨k, second⟩ := second
  rw [printed_tail]
  simp only [Item.tokens, tailTokens, printed, printed_append, Token.text, String.append_assoc,
    String.append_empty]

end BoundSql
