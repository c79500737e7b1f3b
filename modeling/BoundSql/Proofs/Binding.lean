import BoundSql.Proofs.Filling

/-!
# Binding values

A rendering counts the values it binds in one running number. `Binds start stop clash m post` says
of a rendering `m` that it takes the number from `start` to `stop` and gives a result of `post`, and
that it fails only if `clash` holds; rules put such facts together along the program.

A rendering of a fragment `Renders` a template if from every number on it gives the template filled
from there, moves on by the number of holes, and fails only if two of their keys are equal.
-/

namespace BoundSql

open Template

namespace Rendering

/-- From number `start` the rendering comes to number `stop` with a result of `post`, or it fails
and `clash` holds. -/
def Binds {α : Type} (start stop : Nat) (clash : Prop) (m : Rendering α) (post : α → Prop) : Prop :=
  ∀ events, Settles clash (m.run ⟨start, events⟩) fun (a, after) => after.next = stop ∧ post a

section Rules

variable {α β : Type} {start stop last : Nat} {clash clash' : Prop} {P P' : α → Prop}
  {Q : β → Prop} {m : Rendering α}

theorem Binds.pure {a : α} (h : P a) : Binds start start clash (Pure.pure a) P :=
  fun _ => ⟨rfl, h⟩

theorem Binds.bind {f : α → Rendering β} (hm : Binds start stop clash m P)
    (hf : ∀ a, P a → Binds stop last clash (f a) Q) : Binds start last clash (m >>= f) Q := by
  intro events
  rw [StateT.run_bind]
  refine Settles.bind (hm events) ?_
  rintro ⟨a, next, after⟩ ⟨rfl, ha⟩
  exact hf a ha after

theorem Binds.mono (hm : Binds start stop clash m P) (hc : clash → clash')
    (hp : ∀ a, P a → P' a) : Binds start stop clash' m P' :=
  fun events => (hm events).mono hc fun _ h => ⟨h.1, hp _ h.2⟩

theorem Binds.append_right {config : Config} {n : Nat} {first : List Hole}
    (hm : Binds start stop (Clash config n first) m P) (second : List Hole) :
    Binds start stop (Clash config n (first ++ second)) m P :=
  hm.mono (fun clash => clash.append_right second) fun _ => id

theorem Binds.append_left {config : Config} {n : Nat} {second : List Hole} (first : List Hole)
    (hm : Binds start stop (Clash config (n + first.length) second) m P) :
    Binds start stop (Clash config n (first ++ second)) m P :=
  hm.mono (fun clash => clash.append_left first) fun _ => id

theorem Binds.lift {e : Except Collision α} (he : Settles clash e P) :
    Binds start start clash (liftM e) P := by
  intro events
  rcases e with c | a
  · exact he
  · exact ⟨rfl, he⟩

theorem Binds.get : Binds start start clash get fun progress => progress.next = start :=
  fun _ => ⟨rfl, rfl⟩

theorem Binds.set (progress : Progress) :
    Binds start progress.next clash (set progress) fun _ => True :=
  fun _ => ⟨rfl, trivial⟩

theorem Binds.report (event : Event) : Binds start start clash (report event) fun _ => True :=
  fun _ => ⟨rfl, trivial⟩

end Rules

variable (config : Config)

/-- The rendering gives the template, filled from the number at which it starts. -/
def Renders (t : Template) (m : Rendering Fragment) : Prop :=
  ∀ start, Binds start (start + t.holes.length) (Clash config start t.holes) m
    (Fragment.Fills config start t)

/-- The rendering gives the template, filled from the number at which it starts, and nothing if
there is no template. -/
def RendersOption (t : Option Template) (m : Rendering (Option Fragment)) : Prop :=
  ∀ start, Binds start (start + (holesOf t.toList).length) (Clash config start (holesOf t.toList)) m
    (Option.Rel (Fragment.Fills config start) t)

theorem bindValue_binds (column : Option Column) (value : Value) {start : Nat} {holes : List Hole}
    {into : Parameters} (h : into.entries = entriesFrom config start holes) :
    Binds (start + holes.length) (start + holes.length + 1)
      (Clash config start (holes ++ [⟨column, value⟩])) (bindValue config column value into)
      fun r => r.1 = Hole.placeholder config (start + holes.length) ⟨column, value⟩ ∧
        r.2.entries = entriesFrom config start (holes ++ [⟨column, value⟩]) := by
  have inserted := Parameters.insert_settles into
    (Hole.key config (start + holes.length) ⟨column, value⟩) value
  rw [h, ← entriesFrom_singleton, ← entriesFrom_append, map_fst_entriesFrom] at inserted
  rw [Hole.key, Hole.strategy_eq] at inserted
  rw [Hole.placeholder, Hole.strategy_eq]
  refine Binds.bind Binds.get ?_
  rintro ⟨_, events⟩ rfl
  refine Binds.bind (Binds.lift inserted) ?_
  intro parameters hp
  refine Binds.bind (Binds.set _) ?_
  rintro - -
  exact Binds.pure ⟨rfl, hp⟩

theorem bindValues_binds (column : Option Column) : ∀ (values : List Value) {start : Nat}
    {holes : List Hole} {into : Parameters},
    into.entries = entriesFrom config start holes →
    Binds (start + holes.length) (start + holes.length + values.length)
      (Clash config start (holes ++ values.map (⟨column, ·⟩)))
      (bindValues config column values into)
      fun r => r.1 = fillAll config (start + holes.length)
          (values.map fun v => [.hole ⟨column, v⟩]) ∧
        r.2.entries = entriesFrom config start (holes ++ values.map (⟨column, ·⟩))
  | [], start, holes, into, h => by
    rw [List.map_nil, List.append_nil]
    exact Binds.pure ⟨rfl, h⟩
  | v :: vs, start, holes, into, h => by
    rw [List.map_cons, List.append_cons]
    refine Binds.bind ((bindValue_binds config column v h).append_right _) ?_
    rintro ⟨placeholder, parameters⟩ ⟨rfl, hp⟩
    have rest := bindValues_binds column vs hp
    rw [List.length_append, List.length_singleton, ← Nat.add_assoc] at rest
    have total : start + holes.length + (vs.length + 1) =
        start + holes.length + 1 + vs.length := by omega
    rw [List.length_cons, total]
    refine Binds.bind rest ?_
    rintro ⟨placeholders, parameters⟩ ⟨rfl, hps⟩
    refine Binds.pure ⟨?_, hps⟩
    rw [List.map_cons, fillAll, fill_hole, fill_nil, String.append_empty]
    rfl

theorem entries_empty (start : Nat) : Parameters.empty.entries = entriesFrom config start [] := rfl

variable {config}

section Few

variable {α : Type} {column : Option Column} {a b : Value} {start : Nat} {P : α → Prop}

theorem bindOne_binds {f : String × Parameters → Rendering α}
    (h : ∀ parameters : Parameters, parameters.entries = entriesFrom config start [⟨column, a⟩] →
      Binds (start + 1) (start + 1) (Clash config start [⟨column, a⟩])
        (f (Hole.placeholder config start ⟨column, a⟩, parameters)) P) :
    Binds start (start + 1) (Clash config start [⟨column, a⟩])
      (bindValue config column a .empty >>= f) P := by
  refine Binds.bind (bindValue_binds config column a (entries_empty config start)) ?_
  rintro ⟨p, parameters⟩ ⟨rfl, hp⟩
  exact h parameters hp

theorem bindTwo_binds {f : String × Parameters → String × Parameters → Rendering α}
    (h : ∀ first parameters : Parameters,
      parameters.entries = entriesFrom config start [⟨column, a⟩, ⟨column, b⟩] →
        Binds (start + 2) (start + 2) (Clash config start [⟨column, a⟩, ⟨column, b⟩])
          (f (Hole.placeholder config start ⟨column, a⟩, first)
            (Hole.placeholder config (start + 1) ⟨column, b⟩, parameters)) P) :
    Binds start (start + 2) (Clash config start [⟨column, a⟩, ⟨column, b⟩])
      (bindValue config column a .empty >>= fun p => bindValue config column b p.2 >>= f p) P := by
  have first := bindValue_binds config column a (entries_empty config start)
  refine Binds.bind (first.append_right [⟨column, b⟩]) ?_
  rintro ⟨p, one⟩ ⟨rfl, hp⟩
  refine Binds.bind (bindValue_binds config column b hp) ?_
  rintro ⟨q, both⟩ ⟨rfl, hq⟩
  exact h one both hq

end Few

theorem bindFragment_renders (column : Option Column) (value : Value) :
    Renders config [.hole ⟨column, value⟩] (bindFragment config column value) := by
  intro start
  refine bindOne_binds ?_
  intro parameters hp
  refine Binds.pure ⟨?_, hp⟩
  rw [fill_hole, fill_nil, String.append_empty]

theorem Renders.after {t : Template} {m : Rendering Fragment} (h : Renders config t m)
    (s : String) : Renders config (.text s :: t) (do return (← m).after s) := by
  intro start
  refine Binds.bind (h start) ?_
  intro f hf
  exact Binds.pure (hf.after s)

theorem Renders.some_between {t : Template} {m : Rendering Fragment} (h : Renders config t m)
    (opening closing : String) :
    RendersOption config (some (between opening t closing))
      (do let f ← m; return some ⟨opening ++ f.text ++ closing, f.parameters⟩) := by
  intro start
  rw [Option.toList_some, holesOf_cons, holes_between, holesOf_nil, List.append_nil]
  refine Binds.bind (h start) ?_
  intro f hf
  exact Binds.pure (Option.Rel.some (hf.between opening closing))

theorem rendersOption_ofText (s : String) :
    RendersOption config (some (ofText s)) (return some (.ofText s)) :=
  fun _ => Binds.pure (Option.Rel.some (Fragment.fills_ofText s))

theorem rendersOption_none : RendersOption config none (return none) :=
  fun _ => Binds.pure Option.Rel.none

theorem renders_ofText (s : String) : Renders config (ofText s) (return .ofText s) :=
  fun _ => Binds.pure (Fragment.fills_ofText s)

/-- Fragments that are collected one after the other fill their templates, numbered through. -/
theorem collect_binds {ι : Type} (t : ι → Template) (m : ι → Rendering Fragment) {start : Nat} :
    ∀ (l : List ι), (∀ a ∈ l, Renders config (t a) (m a)) → ∀ {ts : List Template} {c : Collector},
      c.Fills config start ts →
      Binds (start + (holesOf ts).length) (start + (holesOf (ts ++ l.map t)).length)
        (Clash config start (holesOf (ts ++ l.map t))) (collect c (l.map m))
        (Collector.Fills config start (ts ++ l.map t))
  | [], _, ts, c, h => by
    rw [List.map_nil, List.append_nil]
    exact Binds.pure h
  | a :: l, hm, ts, c, h => by
    obtain ⟨ha, hl⟩ := List.forall_mem_cons.mp hm
    have whole : ts ++ (a :: l).map t = (ts ++ [t a]) ++ l.map t := List.append_cons ..
    have next : start + (holesOf ts).length + (t a).holes.length =
        start + (holesOf (ts ++ [t a])).length := by
      simp [Nat.add_assoc]
    have parts : holesOf (ts ++ [t a] ++ l.map t) =
        holesOf ts ++ ((t a).holes ++ holesOf (l.map t)) := by
      simp
    have own := (ha (start + (holesOf ts).length)).append_right (holesOf (l.map t))
    have first := own.append_left (holesOf ts)
    rw [next, ← parts] at first
    rw [whole]
    refine Binds.bind first ?_
    intro f hf
    have added := (h.add hf).append_right (holesOf (l.map t))
    rw [← holesOf_append] at added
    refine Binds.bind (Binds.lift added) ?_
    intro d hd
    exact collect_binds t m l hl hd

end Rendering

end BoundSql
