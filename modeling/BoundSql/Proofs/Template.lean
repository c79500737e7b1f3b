import BoundSql.Rendering.Statement

/-!
# Templates

A template is a text with holes, one for each value that is bound. `Template.fill` writes the
placeholders into the holes, numbered one after the other from a given number on, and
`entriesFrom` lists the values under the keys they get for the same numbers. Both are plain
functions of a finished template: nothing is counted on the way and nothing can collide.
-/

namespace BoundSql

/-- A place where a value is bound. -/
structure Hole where
  /-- The column the value belongs to, if it belongs to one. -/
  column : Option Column
  value : Value

namespace Hole

/-- The strategy that writes the value: that of its column, else that of the configuration. -/
def strategy (config : Config) (h : Hole) : Strategy :=
  match h.column with
  | some c => c.strategy.getD config.strategy
  | none => config.strategy

/-- The value as number `n`, as its strategy sees it. -/
def binding (config : Config) (n : Nat) (h : Hole) : Binding where
  sequence := n
  name := config.stem ++ toString n
  dataType := h.column.map Column.dataType

/-- The placeholder of the value as number `n`. -/
def placeholder (config : Config) (n : Nat) (h : Hole) : String :=
  (h.strategy config).placeholder (h.binding config n)

/-- The key of the value as number `n`. -/
def key (config : Config) (n : Nat) (h : Hole) : String :=
  (h.strategy config).key (h.binding config n)

theorem strategy_eq (config : Config) (column : Option Column) (value : Value) :
    Hole.strategy config ⟨column, value⟩ = Rendering.strategyOf config column := by
  cases column <;> rfl

end Hole

/-- The keys of values that are numbered from `start` on. -/
def keysFrom (config : Config) (start : Nat) (holes : List Hole) : List String :=
  holes.mapIdx fun i h => h.key config (start + i)

/-- The values under their keys, numbered from `start` on. -/
def entriesFrom (config : Config) (start : Nat) (holes : List Hole) : List (String × Value) :=
  holes.mapIdx fun i h => (h.key config (start + i), h.value)

section Numbered

variable (config : Config) (start : Nat)

theorem keysFrom_append (first second : List Hole) :
    keysFrom config start (first ++ second) =
      keysFrom config start first ++ keysFrom config (start + first.length) second := by
  simp only [keysFrom, List.mapIdx_append, Nat.add_assoc, Nat.add_comm first.length]

theorem entriesFrom_append (first second : List Hole) :
    entriesFrom config start (first ++ second) =
      entriesFrom config start first ++ entriesFrom config (start + first.length) second := by
  simp only [entriesFrom, List.mapIdx_append, Nat.add_assoc, Nat.add_comm first.length]

theorem entriesFrom_singleton (h : Hole) :
    entriesFrom config start [h] = [(h.key config start, h.value)] := rfl

@[simp]
theorem map_fst_entriesFrom (holes : List Hole) :
    (entriesFrom config start holes).map Prod.fst = keysFrom config start holes := by
  apply List.ext_getElem?
  intro i
  simp [entriesFrom, keysFrom, Function.comp_def]

@[simp]
theorem map_snd_entriesFrom (holes : List Hole) :
    (entriesFrom config start holes).map Prod.snd = holes.map Hole.value := by
  apply List.ext_getElem?
  intro i
  simp [entriesFrom, Function.comp_def]

theorem getElem?_keysFrom (holes : List Hole) (i : Nat) :
    (keysFrom config start holes)[i]? = holes[i]?.map fun h => h.key config (start + i) := by
  rw [keysFrom, List.getElem?_mapIdx]

theorem getElem?_entriesFrom (holes : List Hole) (i : Nat) :
    (entriesFrom config start holes)[i]? =
      holes[i]?.map fun h => (h.key config (start + i), h.value) := by
  rw [entriesFrom, List.getElem?_mapIdx]

end Numbered

/-- A part of a template. -/
inductive Piece where
  | text (s : String)
  | hole (h : Hole)

/-- A text with holes. -/
abbrev Template := List Piece

namespace Template

/-- The holes in reading order. -/
def holes : Template → List Hole
  | [] => []
  | .text _ :: rest => holes rest
  | .hole h :: rest => h :: holes rest

/-- The text with placeholders in the holes, the first of them as number `n`. -/
def fill (config : Config) (n : Nat) : Template → String
  | [] => ""
  | .text s :: rest => s ++ fill config n rest
  | .hole h :: rest => h.placeholder config n ++ fill config (n + 1) rest

def ofText (s : String) : Template := [.text s]

def join (separator : String) (parts : List Template) : Template :=
  List.intercalate [.text separator] parts

def between (opening : String) (t : Template) (closing : String) : Template :=
  .text opening :: t ++ [.text closing]

/-- The templates with blanks between them, in parentheses if there is more than one. -/
def grouped (parts : List Template) : Template :=
  if 1 < parts.length then between "(" (join " " parts) ")" else join " " parts

def holesOf (parts : List Template) : List Hole := parts.flatMap holes

/-- The texts of several templates, whose holes are numbered through. -/
def fillAll (config : Config) (n : Nat) : List Template → List String
  | [] => []
  | t :: ts => t.fill config n :: fillAll config (n + t.holes.length) ts

@[simp]
theorem holes_nil : holes [] = [] := rfl

@[simp]
theorem holes_text (s : String) (t : Template) : holes (.text s :: t) = holes t := rfl

@[simp]
theorem holes_hole (h : Hole) (t : Template) : holes (.hole h :: t) = h :: holes t := rfl

@[simp]
theorem holes_append : ∀ t u : Template, holes (t ++ u) = holes t ++ holes u
  | [], _ => rfl
  | .text _ :: t, u => holes_append t u
  | .hole h :: t, u => congrArg (h :: ·) (holes_append t u)

@[simp]
theorem holesOf_nil : holesOf [] = [] := rfl

@[simp]
theorem holesOf_cons (t : Template) (ts : List Template) :
    holesOf (t :: ts) = t.holes ++ holesOf ts := rfl

@[simp]
theorem holesOf_append (ts us : List Template) : holesOf (ts ++ us) = holesOf ts ++ holesOf us := by
  simp only [holesOf, List.flatMap_append]

@[simp]
theorem holes_join (separator : String) : ∀ ts : List Template,
    holes (join separator ts) = holesOf ts
  | [] => rfl
  | [t] => by simp [join]
  | t :: u :: ts => by
    have ih := holes_join separator (u :: ts)
    simp only [join, List.intercalate_cons_cons] at ih ⊢
    simp only [holes_append, holes_text, holes_nil, List.append_nil, ih, holesOf_cons]

@[simp]
theorem holes_ofText (s : String) : holes (ofText s) = [] := rfl

@[simp]
theorem holesOf_map_ofText : ∀ texts : List String, holesOf (texts.map ofText) = []
  | [] => rfl
  | _ :: texts => holesOf_map_ofText texts

@[simp]
theorem holes_between (opening closing : String) (t : Template) :
    holes (between opening t closing) = holes t := by
  simp only [between, List.cons_append, holes_text, holes_append, holes_nil, List.append_nil]

@[simp]
theorem holes_grouped (parts : List Template) : holes (grouped parts) = holesOf parts := by
  unfold grouped
  split
  · rw [holes_between, holes_join]
  · rw [holes_join]

theorem holesOf_map_hole {α : Type} (f : α → Hole) : ∀ l : List α,
    holesOf (l.map fun a => [.hole (f a)]) = l.map f
  | [] => rfl
  | a :: l => congrArg (f a :: ·) (holesOf_map_hole f l)

section Fill

variable (config : Config)

theorem fill_append (n : Nat) : ∀ t u : Template,
    fill config n (t ++ u) = fill config n t ++ fill config (n + t.holes.length) u
  | [], u => by simp [fill]
  | .text s :: t, u => by
    rw [List.cons_append, fill, fill_append n t u, fill, holes_text, String.append_assoc]
  | .hole h :: t, u => by
    rw [List.cons_append, fill, fill_append (n + 1) t u, fill, holes_hole, String.append_assoc,
      List.length_cons, Nat.add_right_comm, ← Nat.add_assoc]

@[simp]
theorem fill_nil (n : Nat) : fill config n [] = "" := rfl

@[simp]
theorem fill_text (n : Nat) (s : String) (t : Template) :
    fill config n (.text s :: t) = s ++ fill config n t := rfl

theorem fill_hole (n : Nat) (h : Hole) (t : Template) :
    fill config n (.hole h :: t) = h.placeholder config n ++ fill config (n + 1) t := rfl

theorem fill_between (n : Nat) (opening closing : String) (t : Template) :
    fill config n (between opening t closing) = opening ++ fill config n t ++ closing := by
  simp only [between, List.cons_append, fill_text, fill_append, fill_nil, String.append_empty,
    String.append_assoc]

theorem fillAll_append (n : Nat) : ∀ ts us : List Template,
    fillAll config n (ts ++ us) = fillAll config n ts ++ fillAll config (n + (holesOf ts).length) us
  | [], us => by simp [fillAll]
  | t :: ts, us => by
    rw [List.cons_append, fillAll, fillAll_append (n + t.holes.length) ts us, fillAll, holesOf_cons,
      List.length_append, List.cons_append, Nat.add_assoc]

theorem length_fillAll (n : Nat) : ∀ ts : List Template, (fillAll config n ts).length = ts.length
  | [] => rfl
  | t :: ts => by rw [fillAll, List.length_cons, length_fillAll _ ts, List.length_cons]

theorem fill_join (separator : String) (n : Nat) : ∀ ts : List Template,
    fill config n (join separator ts) = String.intercalate separator (fillAll config n ts)
  | [] => by simp [join, fillAll]
  | [t] => by simp [join, fillAll]
  | t :: u :: ts => by
    have ih := fill_join separator (n + t.holes.length) (u :: ts)
    simp only [join, List.intercalate_cons_cons, fillAll] at ih ⊢
    rw [String.intercalate_cons_cons, ← ih]
    simp only [fill_append, fill_text, fill_nil, String.append_empty, holes_append, holes_text,
      holes_nil, List.append_nil]

theorem fill_join_append (separator : String) (n : Nat) {ts us : List Template}
    (first : ts ≠ []) (second : us ≠ []) :
    fill config n (join separator (ts ++ us)) = fill config n (join separator ts) ++ separator ++
      fill config (n + (holesOf ts).length) (join separator us) := by
  have texts (k : Nat) {vs : List Template} (h : vs ≠ []) : fillAll config k vs ≠ [] := by
    rw [← List.length_pos_iff, length_fillAll]
    exact List.length_pos_iff.mpr h
  rw [fill_join, fillAll_append,
    String.intercalate_append_of_ne_nil (texts _ first) (texts _ second), fill_join, fill_join]

/-- Each template is filled from the number behind the holes of those before it. -/
theorem getElem?_fillAll : ∀ (ts : List Template) (n i : Nat),
    (fillAll config n ts)[i]? =
      ts[i]?.map fun t => t.fill config (n + (holesOf (ts.take i)).length)
  | [], _, _ => rfl
  | t :: ts, n, 0 => rfl
  | t :: ts, n, i + 1 => by
    rw [fillAll, List.getElem?_cons_succ, getElem?_fillAll ts]
    simp only [List.getElem?_cons_succ, List.take_succ_cons, holesOf_cons, List.length_append,
      Nat.add_assoc]

theorem fillAll_map_ofText (n : Nat) : ∀ texts : List String,
    fillAll config n (texts.map ofText) = texts
  | [] => rfl
  | s :: texts => by
    rw [List.map_cons, fillAll, holes_ofText, fillAll_map_ofText, ofText, fill_text, fill_nil,
      String.append_empty]

end Fill

end Template

end BoundSql
