import BoundSql.Proofs.CharacterRuns
import BoundSql.Proofs.Numbering
import BoundSql.Rendered
import Mathlib.Data.List.Basic
import Mathlib.Data.List.Induction
import Mathlib.Data.List.Nodup

/-!
# When two keys collide

A rendering fails exactly if two keys of one statement are equal. With built-in strategies a key is
either the number of the value or the stem with the number behind it. Two of these are equal for
different numbers only if one number's text is the stem and more behind it, and then the stem is a
`Numeral`, which is a text that some positive number is written as. For such a stem there is a
statement that fails: one value under the stem with `1` behind it, and as many others as it takes to
come to this number.
-/

namespace BoundSql

open Rendering Template

/-! ## Numerals -/

/-- A text of digits that does not start with zero. -/
structure Numeral (s : String) : Prop where
  nonempty : s.toList ≠ []
  digits : ∀ c ∈ s.toList, c.isDigit = true
  head : s.toList.head? ≠ some '0'

instance (s : String) : Decidable (Numeral s) :=
  decidable_of_iff (s.toList ≠ [] ∧ s.toList.all Char.isDigit = true ∧ s.toList.head? ≠ some '0')
    ⟨fun h => ⟨h.1, List.all_eq_true.mp h.2.1, h.2.2⟩,
      fun h => ⟨h.nonempty, List.all_eq_true.mpr h.digits, h.head⟩⟩

example : Numeral "107" ∧ ¬ Numeral "" ∧ ¬ Numeral "07" ∧ ¬ Numeral "p1" := by
  decide

theorem exists_digitChar {c : Char} (h : c.isDigit = true) : ∃ d < 10, Nat.digitChar d = c := by
  rw [Char.isDigit_iff_toNat] at h
  have low : '0'.toNat = 48 := rfl
  have high : '9'.toNat = 57 := rfl
  refine ⟨c.toNat - 48, by omega, ?_⟩
  apply Char.toNat_inj.mp
  rw [Nat.toNat_digitChar_of_lt_ten (by omega)]
  omega

theorem exists_toDigits (cs : List Char) (nonempty : cs ≠ [])
    (digits : ∀ c ∈ cs, c.isDigit = true) (head : cs.head? ≠ some '0') :
    ∃ n, 0 < n ∧ Nat.toDigits 10 n = cs := by
  induction cs using List.reverseRecOn with
  | nil => exact absurd rfl nonempty
  | append_singleton cs c ih =>
    obtain ⟨d, hd, rfl⟩ := exists_digitChar (digits c (by simp))
    rcases cs with _ | ⟨first, cs⟩
    · refine ⟨d, ?_, Nat.toDigits_of_lt_base hd⟩
      have ne : d ≠ 0 := by simpa using head
      omega
    · have before : ∀ c ∈ first :: cs, c.isDigit = true :=
        fun c hc => digits c (List.mem_append_left _ hc)
      obtain ⟨n, pos, hn⟩ := ih (List.cons_ne_nil _ _) before (by simpa using head)
      refine ⟨10 * n + d, by omega, ?_⟩
      rw [← Nat.toDigits_append_toDigits (by omega) pos hd, hn, Nat.toDigits_of_lt_base hd]

theorem numeral_iff (s : String) : Numeral s ↔ ∃ n, 0 < n ∧ toString n = s := by
  constructor
  · rintro ⟨nonempty, digits, head⟩
    obtain ⟨n, pos, hn⟩ := exists_toDigits s.toList nonempty digits head
    refine ⟨n, pos, String.toList_injective ?_⟩
    rw [Nat.toString_eq_repr, Nat.toList_repr, hn]
  · rintro ⟨n, pos, rfl⟩
    rw [Nat.toString_eq_repr]
    refine ⟨?_, ?_, ?_⟩ <;> rw [Nat.toList_repr]
    · exact Nat.toDigits_ne_nil
    · exact fun c hc => Nat.isDigit_of_mem_toDigits (by omega) (by omega) hc
    · exact head?_toDigits n pos

theorem Numeral.of_append {s t : String} (h : Numeral (s ++ t)) (nonempty : s.toList ≠ []) :
    Numeral s := by
  obtain ⟨-, digits, head⟩ := h
  rw [String.toList_append] at digits head
  refine ⟨nonempty, fun c hc => digits c (List.mem_append_left _ hc), ?_⟩
  rwa [List.head?_append_of_ne_nil _ nonempty] at head

theorem toString_nat_inj {n m : Nat} (h : toString n = toString m) : n = m := by
  have digits := congrArg String.toList h
  rw [Nat.toString_eq_repr, Nat.toString_eq_repr, Nat.toList_repr, Nat.toList_repr] at digits
  have values := congrArg (fun cs => Nat.ofDigitChars 10 cs 0) digits
  simpa only [Nat.ofDigitChars_ten_toDigits] using values

theorem exists_toString_eq_append_one {stem : String} (h : Numeral stem) :
    ∃ n, 2 ≤ n ∧ toString n = stem ++ toString 1 := by
  obtain ⟨m, pos, rfl⟩ := (numeral_iff stem).mp h
  refine ⟨10 * m + 1, by omega, String.toList_injective ?_⟩
  rw [String.toList_append, Nat.toString_eq_repr, Nat.toString_eq_repr, Nat.toString_eq_repr,
    Nat.toList_repr, Nat.toList_repr, Nat.toList_repr]
  exact (Nat.toDigits_append_toDigits (by omega) pos (by omega)).symm

/-- A stem with a number behind it is the text of another number only if the stem is a numeral. -/
theorem eq_of_append_eq_toString {stem : String} (plain : ¬ Numeral stem) {n m : Nat}
    (h : stem ++ toString n = toString m) : n = m := by
  by_cases empty : stem.toList = []
  · have none : stem = "" := String.toList_injective empty
    rw [none, String.empty_append] at h
    exact toString_nat_inj h
  · exfalso
    rcases Nat.eq_zero_or_pos m with rfl | pos
    -- Zero is written with one character, and the stem and `n` have one each.
    · have length := congrArg (fun s => s.toList.length) h
      have number : 0 < (Nat.toDigits 10 n).length := Nat.length_toDigits_pos
      have first : 0 < stem.toList.length := List.length_pos_iff.mpr empty
      simp only [String.toList_append, List.length_append, Nat.toString_eq_repr, Nat.toList_repr,
        Nat.toDigits_zero, List.length_singleton] at length
      omega
    · have whole : Numeral (stem ++ toString n) := (numeral_iff _).mpr ⟨m, pos, h.symm⟩
      exact plain (whole.of_append empty)

/-! ## Keys -/

theorem Strategy.key_of_mem_builtIn {s : Strategy} (h : s ∈ builtIn) (b : Binding) :
    s.key b = b.name ∨ s.key b = toString b.sequence := by
  simp only [builtIn, List.mem_cons, List.not_mem_nil, or_false] at h
  rcases h with rfl | rfl | rfl | rfl | rfl
  · exact .inl rfl
  · exact .inl rfl
  · exact .inr rfl
  · exact .inl rfl
  · exact .inl rfl

/-- Built-in strategies never give two numbers the same key. -/
theorem Hole.key_inj {config : Config} (plain : ¬ Numeral config.stem) {h h' : Hole}
    (own : h.strategy config ∈ Strategy.builtIn) (own' : h'.strategy config ∈ Strategy.builtIn)
    {n m : Nat} (same : h.key config n = h'.key config m) : n = m := by
  have first := Strategy.key_of_mem_builtIn own (h.binding config n)
  have second := Strategy.key_of_mem_builtIn own' (h'.binding config m)
  rw [Hole.key, Hole.key] at same
  rw [same] at first
  rcases first with first | first <;> rcases second with second | second <;>
    have keys := first.symm.trans second
  · exact toString_nat_inj ((String.append_right_inj config.stem).mp keys)
  · exact eq_of_append_eq_toString plain keys
  · exact (eq_of_append_eq_toString plain keys.symm).symm
  · exact toString_nat_inj keys

theorem clash_iff {config : Config} {start : Nat} {holes : List Hole} :
    Clash config start holes ↔ ∃ (i j : Nat) (h h' : Hole), i < j ∧ holes[i]? = some h ∧
      holes[j]? = some h' ∧ h.key config (start + i) = h'.key config (start + j) := by
  rw [Clash, List.nodup_iff_getElem?_ne_getElem?]
  constructor
  · intro clash
    push Not at clash
    obtain ⟨i, j, lt, bound, same⟩ := clash
    have keys := same
    rw [keysFrom, List.length_mapIdx] at bound
    rw [getElem?_keysFrom, getElem?_keysFrom, List.getElem?_eq_getElem bound,
      List.getElem?_eq_getElem (Nat.lt_trans lt bound)] at keys
    exact ⟨i, j, holes[i], holes[j], lt, List.getElem?_eq_getElem _, List.getElem?_eq_getElem _,
      Option.some.inj keys⟩
  · rintro ⟨i, j, h, h', lt, first, second, same⟩ distinct
    have bound := (List.getElem?_eq_some_iff.mp second).1
    refine distinct i j lt ?_ ?_
    · rw [keysFrom, List.length_mapIdx]
      exact bound
    · rw [getElem?_keysFrom, getElem?_keysFrom, first, second, Option.map_some, Option.map_some,
        same]

theorem nodup_keysFrom {config : Config} (plain : ¬ Numeral config.stem) {holes : List Hole}
    (builtIn : ∀ h ∈ holes, h.strategy config ∈ Strategy.builtIn) (start : Nat) :
    (keysFrom config start holes).Nodup := by
  by_contra clash
  obtain ⟨i, j, h, h', lt, first, second, same⟩ := clash_iff.mp clash
  have number := Hole.key_inj plain (builtIn h (List.mem_of_getElem? first))
    (builtIn h' (List.mem_of_getElem? second)) same
  omega

/-! ## Statements rendered one after another -/

namespace Rendering

/-- Renders statements one after the other with one running number, each with parameters of its
own. -/
def renderAll (config : Config) : List (Scope × Statement) → Rendering (List Fragment)
  | [] => return []
  | (scope, s) :: rest => do
    let first ← renderStatement config scope s
    let others ← renderAll config rest
    return first :: others

/-- The values of statements, one statement after the other. -/
def allHoles (statements : List (Scope × Statement)) : List Hole :=
  statements.flatMap fun s => s.2.holes

variable {config : Config} {start stop : Progress}

theorem renderStatement_fails_iff (scope : Scope) (s : Statement) :
    (∃ c, (renderStatement config scope s).run start = .error c) ↔
      Clash config start.next s.holes := by
  rw [(renderStatement_renders scope s).fails_iff, s.holes_template]

theorem renderStatement_ok {scope : Scope} {s : Statement} {f : Fragment}
    (run : (renderStatement config scope s).run start = .ok (f, stop)) :
    f.Fills config start.next (s.template scope) ∧ stop.next = start.next + s.holes.length := by
  obtain ⟨fills, next⟩ := (renderStatement_renders scope s).ok run
  rw [s.holes_template] at next
  exact ⟨fills, next⟩

theorem holesOf_map_template (statements : List (Scope × Statement)) :
    holesOf (statements.map fun s => s.2.template s.1) = allHoles statements := by
  simp only [holesOf, List.flatMap_map, Statement.holes_template, allHoles]

/-- Each statement fills its template from the number behind those before it. -/
theorem renderAll_fills : ∀ {statements : List (Scope × Statement)} {start stop : Progress}
    {fs : List Fragment}, (renderAll config statements).run start = .ok (fs, stop) →
    FillEach config start.next (statements.map fun s => s.2.template s.1) fs ∧
      stop.next = start.next + (allHoles statements).length
  | [], start, stop, fs, run => by
    cases run
    exact ⟨trivial, rfl⟩
  | (scope, s) :: rest, start, stop, fs, run => by
    rw [renderAll] at run
    obtain ⟨first, mid, firstRun, afterFirst⟩ := run_bind_inv run
    obtain ⟨others, last, othersRun, outcome⟩ := run_bind_inv afterFirst
    cases outcome
    obtain ⟨firstFills, firstNext⟩ := renderStatement_ok firstRun
    obtain ⟨othersFill, othersNext⟩ := renderAll_fills othersRun
    have all : allHoles ((scope, s) :: rest) = s.holes ++ allHoles rest := rfl
    refine ⟨⟨firstFills, ?_⟩, ?_⟩
    · rw [s.holes_template, ← firstNext]
      exact othersFill
    · rw [all, List.length_append, othersNext, firstNext, Nat.add_assoc]

theorem renderAll_ok {statements : List (Scope × Statement)} {fs : List Fragment}
    (run : (renderAll config statements).run start = .ok (fs, stop)) :
    (fs.flatMap fun f => f.parameters.keys) = keysFrom config start.next (allHoles statements) ∧
      stop.next = start.next + (allHoles statements).length := by
  obtain ⟨fill, next⟩ := renderAll_fills run
  refine ⟨?_, next⟩
  have keys := congrArg (List.map Prod.fst) fill.entries
  rw [List.map_flatMap, map_fst_entriesFrom, holesOf_map_template] at keys
  exact keys

/-- Nothing is refused if the keys of all values are distinct. -/
theorem renderAll_succeeds : ∀ {statements : List (Scope × Statement)} {start : Progress},
    (keysFrom config start.next (allHoles statements)).Nodup →
    ∃ fs stop, (renderAll config statements).run start = .ok (fs, stop)
  | [], start, _ => ⟨[], start, rfl⟩
  | (scope, s) :: rest, start, distinct => by
    have all : allHoles ((scope, s) :: rest) = s.holes ++ allHoles rest := rfl
    rw [all, keysFrom_append] at distinct
    obtain ⟨own, behind, -⟩ := List.nodup_append.mp distinct
    rcases run : (renderStatement config scope s).run start with c | ⟨f, mid⟩
    · exact absurd own ((renderStatement_fails_iff scope s).mp ⟨c, run⟩)
    · rw [← (renderStatement_ok run).2] at behind
      obtain ⟨fs, stop, othersRun⟩ := renderAll_succeeds behind
      refine ⟨f :: fs, stop, ?_⟩
      rw [renderAll, run_bind_of_ok run, run_bind_of_ok othersRun]
      rfl

/-- An insert of a value of one column and of more values of another one. -/
def mixedInsert (own plain : Column) (count : Nat) : Statement :=
  .insert ⟨own.table, ⟨own, .value .null⟩ :: List.replicate count ⟨plain, .value .null⟩⟩

theorem holes_mixedInsert (own plain : Column) (count : Nat) :
    (mixedInsert own plain count).holes =
      ⟨some own, .null⟩ :: List.replicate count ⟨some plain, .null⟩ := by
  rw [mixedInsert, Statement.holes, List.flatMap_cons, List.flatMap_replicate]
  simp [assignedHoles]

/-- The first value is number one, under the stem with `1` behind it, and so is the value whose
number is written in this way. -/
theorem exists_render_error (numeral : Numeral config.stem) (numbered : config.strategy = .numbered)
    {d : Strategy} (key : d.key = Binding.name) :
    ∃ s : Statement, (∀ h ∈ s.holes,
        strategyOf config h.column = .numbered ∨ strategyOf config h.column = d) ∧
      ∃ c, s.render config = .error c := by
  obtain ⟨n, two, hn⟩ := exists_toString_eq_append_one numeral
  let own : Column := ⟨⟨0, "person"⟩, "id", .integer, none, some d⟩
  let plain : Column := ⟨⟨0, "person"⟩, "name", .text, none, none⟩
  have holes := holes_mixedInsert own plain (n - 1)
  have ownStrategy : strategyOf config (some own) = d := rfl
  have plainStrategy : strategyOf config (some plain) = .numbered := numbered
  refine ⟨mixedInsert own plain (n - 1), ?_, ?_⟩
  · intro h hh
    rw [holes, List.mem_cons] at hh
    rcases hh with rfl | hh
    · exact .inr ownStrategy
    · rw [List.eq_of_mem_replicate hh]
      exact .inl plainStrategy
  · have clash : Clash config 1 (mixedInsert own plain (n - 1)).holes := by
      rw [holes, clash_iff]
      refine ⟨0, n - 2 + 1, ⟨some own, .null⟩, ⟨some plain, .null⟩, by omega, rfl, ?_, ?_⟩
      · rw [List.getElem?_cons_succ, List.getElem?_replicate, if_pos (by omega)]
      · rw [Hole.key, Hole.key, Hole.strategy_eq, Hole.strategy_eq, ownStrategy, plainStrategy, key]
        have last : 1 + (n - 2 + 1) = n := by omega
        rw [last]
        exact hn.symm
    have fails : ∃ c, (renderStatement config .empty (mixedInsert own plain (n - 1))).run {} =
        .error c := (renderStatement_fails_iff .empty _).mpr clash
    obtain ⟨c, run⟩ := fails
    refine ⟨c, ?_⟩
    rw [Statement.render, run]
    rfl

/-- With any strategies, a statement behind others fails exactly if two of its values get the same
key for their numbers, at whatever depth they stand. With built-in strategies none fails and no two
keys of all statements are equal, unless the stem is a numeral; and for every numeral there is a
statement over numbered values and those of another built-in strategy that fails. -/
theorem renderAll_collisions (config : Config) (start : Progress) :
    (∀ (before : List (Scope × Statement)) (fs : List Fragment) (mid : Progress) (scope : Scope)
        (s : Statement), (renderAll config before).run start = .ok (fs, mid) →
      ((∃ c, (renderStatement config scope s).run mid = .error c) ↔
        ∃ (i j : Nat) (h h' : Hole), i < j ∧ s.holes[i]? = some h ∧ s.holes[j]? = some h' ∧
          h.key config (start.next + (allHoles before).length + i) =
            h'.key config (start.next + (allHoles before).length + j))) ∧
    (∀ statements : List (Scope × Statement), config.strategy ∈ Strategy.builtIn →
      (∀ h ∈ allHoles statements, ∀ s ∈ h.column.bind Column.strategy, s ∈ Strategy.builtIn) →
      ¬ Numeral config.stem →
        ∃ fs stop, (renderAll config statements).run start = .ok (fs, stop) ∧
          (fs.flatMap fun f => f.parameters.keys).Nodup) ∧
    (Numeral config.stem → config.strategy = .numbered → ∀ d ∈ Strategy.builtIn,
      d.key = Binding.name → ∃ s : Statement, (∀ h ∈ s.holes,
        strategyOf config h.column = .numbered ∨ strategyOf config h.column = d) ∧
          ∃ c, s.render config = .error c) := by
  refine ⟨?_, ?_, ?_⟩
  · intro before fs mid scope s run
    rw [renderStatement_fails_iff, (renderAll_ok run).2, clash_iff]
  · intro statements strategy overrides plain
    have builtIn : ∀ h ∈ allHoles statements, h.strategy config ∈ Strategy.builtIn := by
      intro h hh
      rw [Hole.strategy_eq config h.column h.value, strategyOf]
      rcases override : h.column.bind Column.strategy with _ | s
      · exact strategy
      · exact overrides h hh s override
    have distinct := nodup_keysFrom plain builtIn start.next
    obtain ⟨fs, stop, run⟩ := renderAll_succeeds distinct
    refine ⟨fs, stop, run, ?_⟩
    rw [(renderAll_ok run).1]
    exact distinct
  · intro numeral numbered d _ key
    exact exists_render_error numeral numbered key

def ownColumn : Column := ⟨⟨0, "person"⟩, "id", .integer, none, some .named⟩

def plainColumn : Column := ⟨⟨0, "person"⟩, "name", .text, none, none⟩

/-- Under the stem `1` the first value and the eleventh collide; under the usual stem nothing
does. -/
theorem mixedInsert_collisions :
    (Numeral "1" ∧ ∃ c, (renderStatement ⟨.numbered, "1", none⟩ .empty
        (mixedInsert ownColumn plainColumn 10)).run {} = .error c) ∧
      (¬ Numeral "p" ∧ ∃ fs stop, (renderAll ⟨.numbered, "p", none⟩
          [(.empty, mixedInsert ownColumn plainColumn 10),
            (.empty, mixedInsert plainColumn ownColumn 3)]).run {} = .ok (fs, stop) ∧
        (fs.flatMap fun f => f.parameters.keys).Nodup) := by
  refine ⟨⟨by decide, ?_⟩, by decide, ?_⟩
  · refine ((renderAll_collisions ⟨.numbered, "1", none⟩ {}).1 [] [] {} .empty _ rfl).mpr ?_
    exact ⟨0, 10, ⟨some ownColumn, .null⟩, ⟨some plainColumn, .null⟩, by decide, rfl, rfl, rfl⟩
  · refine (renderAll_collisions ⟨.numbered, "p", none⟩ {}).2.1 _ ?_ ?_ (by decide)
    · simp [Strategy.builtIn]
    · intro h hh s hs
      have column : h.column = some ownColumn ∨ h.column = some plainColumn := by
        simp only [allHoles, List.flatMap_cons, List.flatMap_nil, holes_mixedInsert,
          List.mem_append, List.mem_cons, List.mem_replicate, List.not_mem_nil, or_false] at hh
        rcases hh with (rfl | ⟨-, rfl⟩) | (rfl | ⟨-, rfl⟩) <;> simp
      rcases column with column | column <;> rw [column] at hs <;> cases hs
      simp [Strategy.builtIn]

end Rendering

end BoundSql
