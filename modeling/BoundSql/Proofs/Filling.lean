import BoundSql.Proofs.Template

/-!
# Fragments that fill templates

A fragment fills a template from a number on if its text is the template's text and its parameters
are the template's entries for that number; a collector fills a list of templates likewise. Putting
fragments together fills the templates put together, and it is refused only where two keys of the
whole are equal (`Clash`).
-/

namespace BoundSql

open Template

/-- Two of the values get the same key when they are numbered from `start` on. -/
def Clash (config : Config) (start : Nat) (holes : List Hole) : Prop :=
  ¬ (keysFrom config start holes).Nodup

theorem Clash.append_right {config : Config} {start : Nat} {first : List Hole}
    (h : Clash config start first) (second : List Hole) :
    Clash config start (first ++ second) := by
  intro nodup
  rw [keysFrom_append] at nodup
  exact h (List.nodup_append.mp nodup).1

theorem Clash.append_left {config : Config} {start : Nat} {second : List Hole}
    (first : List Hole) (h : Clash config (start + first.length) second) :
    Clash config start (first ++ second) := by
  intro nodup
  rw [keysFrom_append] at nodup
  exact h (List.nodup_append.mp nodup).2.1

/-- The computation gives a result of `post`, or it is refused and `clash` holds. -/
def Settles {α : Type} (clash : Prop) (e : Except Collision α) (post : α → Prop) : Prop :=
  match e with
  | .ok a => post a
  | .error _ => clash

namespace Settles

variable {α β : Type} {clash : Prop} {P : α → Prop} {Q : β → Prop} {e : Except Collision α}

theorem pure {a : α} (h : P a) : Settles clash (Pure.pure a) P := h

theorem bind {f : α → Except Collision β} (he : Settles clash e P)
    (hf : ∀ a, P a → Settles clash (f a) Q) : Settles clash (e >>= f) Q := by
  rcases e with c | a
  · exact he
  · exact hf a he

theorem mono {clash' : Prop} {P' : α → Prop} (he : Settles clash e P)
    (hc : clash → clash') (hp : ∀ a, P a → P' a) : Settles clash' e P' := by
  rcases e with c | a
  · exact hc he
  · exact hp a he

theorem append_right {config : Config} {start : Nat} {first : List Hole}
    (he : Settles (Clash config start first) e P) (second : List Hole) :
    Settles (Clash config start (first ++ second)) e P :=
  he.mono (fun clash => clash.append_right second) fun _ => id

end Settles

namespace Parameters

theorem insert_settles (p : Parameters) (key : String) (value : Value) :
    Settles (¬ ((p.entries ++ [(key, value)]).map Prod.fst).Nodup) (p.insert key value)
      fun q => q.entries = p.entries ++ [(key, value)] := by
  rcases h : p.insert key value with c | q
  · intro nodup
    obtain ⟨bound, -⟩ := insert_eq_error_iff.mp h
    rw [List.map_append, List.nodup_append] at nodup
    have mem : key ∈ p.entries.map Prod.fst := by simpa [contains, keys] using bound
    exact nodup.2.2 key mem key (by simp) rfl
  · exact (insert_eq_ok_iff.mp h).2

/-- Binding entries appends all of them, and is refused only if two keys of the whole are equal. -/
theorem insertAll_settles (p : Parameters) : ∀ rest : List (String × Value),
    Settles (¬ ((p.entries ++ rest).map Prod.fst).Nodup) (p.insertAll rest)
      fun q => q.entries = p.entries ++ rest
  | [] => (List.append_nil p.entries).symm
  | (key, value) :: rest => by
    rw [insertAll_cons, List.append_cons]
    refine Settles.bind ((insert_settles p key value).mono ?_ fun _ => id) ?_
    · intro twice nodup
      rw [List.map_append] at nodup
      exact twice (List.nodup_append.mp nodup).1
    · intro q hq
      rw [← hq]
      exact insertAll_settles q rest

theorem empty_merge (p : Parameters) : empty.merge p = .ok p := by
  have outcome := insertAll_settles empty p.entries
  rw [merge]
  rcases merged : empty.insertAll p.entries with c | q <;> rw [merged] at outcome
  · exact absurd p.nodup_keys outcome
  · exact congrArg Except.ok (ext outcome)

end Parameters

/-- The fragment is the template with its holes numbered from `start` on. -/
structure Fragment.Fills (config : Config) (start : Nat) (t : Template) (f : Fragment) : Prop where
  text : f.text = t.fill config start
  entries : f.parameters.entries = entriesFrom config start t.holes

/-- The collected fragments are the templates with their holes numbered from `start` on. -/
structure Collector.Fills (config : Config) (start : Nat) (ts : List Template) (c : Collector) :
    Prop where
  texts : c.texts = fillAll config start ts
  entries : c.parameters.entries = entriesFrom config start (holesOf ts)

/-- The fragments are the templates, one by one, with their holes numbered from `start` on. -/
def FillEach (config : Config) (start : Nat) : List Template → List Fragment → Prop
  | [], [] => True
  | t :: ts, f :: fs => f.Fills config start t ∧ FillEach config (start + t.holes.length) ts fs
  | _, _ => False

variable {config : Config} {start : Nat}

theorem FillEach.texts : ∀ {ts : List Template} {fs : List Fragment} {start : Nat},
    FillEach config start ts fs → fs.map Fragment.text = fillAll config start ts
  | [], [], _, _ => rfl
  | t :: ts, f :: fs, start, ⟨first, rest⟩ => by
    rw [List.map_cons, fillAll, first.text, rest.texts]
  | [], _ :: _, _, h => h.elim
  | _ :: _, [], _, h => h.elim

theorem FillEach.entries : ∀ {ts : List Template} {fs : List Fragment} {start : Nat},
    FillEach config start ts fs →
      (fs.flatMap fun f => f.parameters.entries) = entriesFrom config start (holesOf ts)
  | [], [], _, _ => rfl
  | t :: ts, f :: fs, start, ⟨first, rest⟩ => by
    rw [List.flatMap_cons, holesOf_cons, entriesFrom_append, first.entries, rest.entries]
  | [], _ :: _, _, h => h.elim
  | _ :: _, [], _, h => h.elim

namespace Fragment

theorem fills_ofText (s : String) : (ofText s).Fills config start (Template.ofText s) :=
  ⟨by simp [ofText, Template.ofText], rfl⟩

theorem Fills.after {t : Template} {f : Fragment} (h : f.Fills config start t) (s : String) :
    (f.after s).Fills config start (.text s :: t) :=
  ⟨by rw [fill_text, ← h.text]; rfl, h.entries⟩

theorem Fills.between {t : Template} {f : Fragment} (h : f.Fills config start t)
    (opening closing : String) :
    Fills config start (Template.between opening t closing)
      ⟨opening ++ f.text ++ closing, f.parameters⟩ := by
  refine ⟨?_, ?_⟩
  · rw [fill_between, h.text]
  · rw [holes_between]
    exact h.entries

/-- What fills a template has distinct keys. -/
theorem Fills.nodup {t : Template} {f : Fragment} (h : f.Fills config start t) :
    (keysFrom config start t.holes).Nodup := by
  rw [← map_fst_entriesFrom, ← h.entries]
  exact f.parameters.nodup_keys

end Fragment

namespace Collector

theorem fills_empty : empty.Fills config start [] := ⟨rfl, rfl⟩

theorem empty_add (f : Fragment) : empty.add f = .ok ⟨[f.text], f.parameters⟩ := by
  have merged : empty.parameters.merge f.parameters = .ok f.parameters :=
    f.parameters.empty_merge
  rw [add, merged]
  rfl

variable {ts us : List Template} {c : Collector}

theorem Fills.isEmpty (h : c.Fills config start ts) : c.isEmpty = ts.isEmpty := by
  rw [Collector.isEmpty, h.texts]
  rcases ts with _ | ⟨t, ts⟩ <;> rfl

theorem Fills.add {t : Template} {f : Fragment} (h : c.Fills config start ts)
    (hf : f.Fills config (start + (holesOf ts).length) t) :
    Settles (Clash config start (holesOf (ts ++ [t]))) (c.add f)
      (Collector.Fills config start (ts ++ [t])) := by
  have merged := Parameters.insertAll_settles c.parameters f.parameters.entries
  have whole : c.parameters.entries ++ f.parameters.entries =
      entriesFrom config start (holesOf (ts ++ [t])) := by
    rw [h.entries, hf.entries, holesOf_append, entriesFrom_append, holesOf_cons, holesOf_nil,
      List.append_nil]
  rw [whole, map_fst_entriesFrom] at merged
  refine Settles.bind merged ?_
  intro q hq
  refine ⟨?_, hq⟩
  rw [fillAll_append, ← h.texts, fillAll, fillAll, ← hf.text]

theorem Fills.addAll : ∀ {us : List Template} {fs : List Fragment} {ts : List Template}
    {c : Collector}, c.Fills config start ts →
      FillEach config (start + (holesOf ts).length) us fs →
      Settles (Clash config start (holesOf (ts ++ us))) (c.addAll fs)
        (Collector.Fills config start (ts ++ us))
  | [], [], ts, c, h, _ => by
    rw [List.append_nil]
    exact h
  | t :: us, f :: fs, ts, c, h, ⟨hf, hfs⟩ => by
    rw [List.append_cons]
    have added := (h.add hf).append_right (holesOf us)
    rw [← holesOf_append] at added
    refine Settles.bind added ?_
    intro d hd
    refine hd.addAll ?_
    rw [holesOf_append, holesOf_cons, holesOf_nil, List.append_nil, List.length_append,
      ← Nat.add_assoc]
    exact hfs
  | [], _ :: _, _, _, _, h => h.elim
  | _ :: _, [], _, _, _, h => h.elim

theorem Fills.join (h : c.Fills config start ts) (separator : String) :
    (c.join separator).Fills config start (Template.join separator ts) := by
  refine ⟨?_, ?_⟩
  · rw [fill_join, ← h.texts]
    rfl
  · rw [holes_join]
    exact h.entries

theorem Fills.wrapped (h : c.Fills config start ts) (separator opening closing : String) :
    (c.wrapped separator opening closing).Fills config start
      (Template.between opening (Template.join separator ts) closing) :=
  (h.join separator).between opening closing

theorem Fills.grouped (h : c.Fills config start ts) :
    c.grouped.Fills config start (Template.grouped ts) := by
  have size : c.size = ts.length := by rw [Collector.size, h.texts, length_fillAll]
  unfold Collector.grouped Template.grouped
  simp only [Collector.hasMultiple, size, decide_eq_true_eq]
  split
  · exact h.wrapped " " "(" ")"
  · exact h.join " "

end Collector

end BoundSql
