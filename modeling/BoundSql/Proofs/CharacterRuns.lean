import BoundSql.Decimal.Reader
import Mathlib.Data.List.Basic
import Mathlib.Data.List.TakeDrop

/-!
# Runs of characters

What is read off the front of a text in one piece: a run of characters of one kind ends where one of
another kind stands, or the text ends.
-/

namespace BoundSql

/-- No run of such characters goes on with this text. -/
def Stops (p : Char → Bool) (rest : List Char) : Prop := ∀ c ∈ rest.head?, p c = false

theorem stops_nil (p : Char → Bool) : Stops p [] := by
  intro c hc
  cases hc

theorem stops_cons {p : Char → Bool} {c : Char} (rest : List Char) (h : p c = false) :
    Stops p (c :: rest) := by
  rintro _ ⟨⟩
  exact h

theorem span_append_of_stops {p : Char → Bool} {run rest : List Char} (all : ∀ c ∈ run, p c = true)
    (stops : Stops p rest) : (run ++ rest).span p = (run, rest) := by
  rw [List.span_eq_takeWhile_dropWhile, List.takeWhile_append_of_pos all,
    List.dropWhile_append_of_pos all]
  rcases rest with _ | ⟨c, rest⟩
  · rw [List.takeWhile_nil, List.dropWhile_nil, List.append_nil]
  · have stop : ¬ p c = true := by simp [stops c rfl]
    rw [List.takeWhile_cons_of_neg stop, List.dropWhile_cons_of_neg stop, List.append_nil]

theorem ofDigits_toDigits (n : Nat) : Decimal.ofDigits 0 (Nat.toDigits 10 n) = n :=
  Nat.ofDigitChars_ten_toDigits

theorem isDigit_toDigits (n : Nat) : ∀ c ∈ Nat.toDigits 10 n, c.isDigit = true :=
  fun _ hc => Nat.isDigit_of_mem_toDigits (by omega) (by omega) hc

theorem span_toDigits_append (n : Nat) {rest : List Char} (stops : Stops Char.isDigit rest) :
    (Nat.toDigits 10 n ++ rest).span Char.isDigit = (Nat.toDigits 10 n, rest) :=
  span_append_of_stops (isDigit_toDigits n) stops

theorem head?_toDigits (n : Nat) (pos : 0 < n) : (Nat.toDigits 10 n).head? ≠ some '0' := by
  induction n using Nat.strongRecOn with
  | ind n ih =>
    by_cases small : n < 10
    · rw [Nat.toDigits_of_lt_base small]
      simp only [List.head?_cons, ne_eq, Option.some.injEq, Nat.digitChar_eq_zero]
      omega
    · have before := ih (n / 10) (by omega) (by omega)
      rw [Nat.toDigits_of_base_le (by omega) (by omega),
        List.head?_append_of_ne_nil _ Nat.toDigits_ne_nil]
      exact before

theorem exists_toDigits_eq_cons (n : Nat) :
    ∃ d ds, Nat.toDigits 10 n = d :: ds ∧ d.isDigit = true := by
  obtain ⟨d, ds, eq⟩ := List.exists_cons_of_ne_nil (Nat.toDigits_ne_nil (n := n) (b := 10))
  exact ⟨d, ds, eq, isDigit_toDigits n d (eq ▸ List.mem_cons_self)⟩

end BoundSql
