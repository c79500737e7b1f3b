import BoundSql.Proofs.Numbering

/-!
# Values never reach the text

`Statement.erased` puts null for every value that a statement binds, and zero for its paging
numbers; gates, lists and rows keep their lengths. Two statements that are equal once erased have
the same template up to what stands in its holes, and neither the placeholder nor the key of a hole
looks at its value. So the two are rendered to the same text under the same keys, and each binds its
own values (`render_eq_of_erased_eq`).
-/

namespace BoundSql

open Rendering

/-! ## Statements without their values -/

def Paging.erased : Paging → Paging
  | .limit _ offset => .limit 0 (offset.map fun _ => 0)
  | .fetch offset first => .fetch (offset.map fun _ => 0) (first.map fun _ => 0)

mutual

def Criterion.erased : Criterion → Criterion
  | ⟨connector, test, children⟩ => ⟨connector, test.erased, criteriaErased children⟩

def criteriaErased : List Criterion → List Criterion
  | [] => []
  | c :: cs => c.erased :: criteriaErased cs

def Test.erased : Test → Test
  | .column column ⟨operator, operand, upper, onEmptyList⟩ =>
    .column column ⟨operator, operandErased operand, upper, onEmptyList⟩
  | .existence query negated => .existence query.erased negated
  | .group => .group

/-- An operand of the same gate and length. -/
def operandErased : Operand Select Value → Operand Select Value
  | .noValue isOpen => .noValue isOpen
  | .single value => .single (value.map fun _ => .null)
  | .pair values => .pair (values.map fun _ => (.null, .null))
  | .list values => .list (values.map fun _ => .null)
  | .column other => .column other
  | .select none => .select none
  | .select (some query) => .select (some query.erased)

def Block.erased : Block → Block
  | ⟨union, distinct, items, table, asName, joins, criteria, groupBy⟩ =>
    ⟨union, distinct, items, table, asName, joins, criteriaErased criteria, groupBy⟩

def blocksErased : List Block → List Block
  | [] => []
  | b :: bs => b.erased :: blocksErased bs

def Select.erased : Select → Select
  | ⟨blocks, orderBy, paging⟩ => ⟨blocksErased blocks, orderBy, paging.map Paging.erased⟩

end

def Assigned.erased : Assigned → Assigned
  | .value _ => .value .null
  | a => a

def Assignment.erased (a : Assignment) : Assignment := { a with value := a.value.erased }

/-- The statement with null for every value it binds. -/
def Statement.erased : Statement → Statement
  | .select s => .select s.erased
  | .insert i => .insert { i with assignments := i.assignments.map Assignment.erased }
  | .insertMultiple i => .insertMultiple { i with rows := i.rows.map (List.map Assigned.erased) }
  | .update u => .update { u with
      assignments := u.assignments.map Assignment.erased
      criteria := criteriaErased u.criteria }
  | .delete d => .delete { d with criteria := criteriaErased d.criteria }

/-! ## Templates without the values in their holes -/

def Hole.blank (h : Hole) : Hole := { h with value := .null }

def Piece.blank : Piece → Piece
  | .text s => .text s
  | .hole h => .hole h.blank

namespace Template

/-- The template with null in all its holes. -/
def blank (t : Template) : Template := t.map Piece.blank

section Blank

variable (config : Config) (n : Nat)

theorem holes_blank : ∀ t : Template, holes (blank t) = (holes t).map Hole.blank
  | [] => rfl
  | .text _ :: t => holes_blank t
  | .hole h :: t => congrArg (h.blank :: ·) (holes_blank t)

theorem fill_blank (n : Nat) : ∀ t : Template, fill config n (blank t) = fill config n t
  | [] => rfl
  | .text s :: t => congrArg (s ++ ·) (fill_blank n t)
  | .hole h :: t => congrArg (h.placeholder config n ++ ·) (fill_blank (n + 1) t)

theorem keysFrom_blank (holes : List Hole) :
    keysFrom config n (holes.map Hole.blank) = keysFrom config n holes := by
  have key : ∀ (k : Nat) (h : Hole), h.blank.key config k = h.key config k := fun _ _ => rfl
  apply List.ext_getElem?
  intro i
  simp [keysFrom, key, Function.comp_def]

end Blank

theorem blank_append (t u : Template) : blank (t ++ u) = blank t ++ blank u :=
  List.map_append

theorem blank_text (s : String) (t : Template) : blank (.text s :: t) = .text s :: blank t := rfl

theorem blank_join (separator : String) : ∀ ts : List Template,
    blank (join separator ts) = join separator (ts.map blank)
  | [] => rfl
  | [t] => by simp [join]
  | t :: u :: ts => by
    have ih := blank_join separator (u :: ts)
    simp only [join, List.map_cons, List.intercalate_cons_cons] at ih ⊢
    rw [blank_append, blank_append, ih]
    rfl

theorem blank_between (opening closing : String) (t : Template) :
    blank (between opening t closing) = between opening (blank t) closing := by
  rw [between, List.cons_append, blank_text, blank_append]
  rfl

theorem blank_grouped (ts : List Template) : blank (grouped ts) = grouped (ts.map blank) := by
  unfold grouped
  rw [List.length_map]
  split
  · rw [blank_between, blank_join]
  · rw [blank_join]

/-- The criterion with null in all the holes of its template. -/
def blankBehind (criterion : Option Connector × Template) : Option Connector × Template :=
  (criterion.1, blank criterion.2)

theorem map_blank_joined (below : List (Option Connector × Template)) :
    (below.map joined).map blank = (below.map blankBehind).map joined := by
  rw [List.map_map, List.map_map]
  rfl

theorem map_blank_headed (below : List (Option Connector × Template)) :
    (headed below).map blank = headed (below.map blankBehind) := by
  rcases below with _ | ⟨⟨k, t⟩, rest⟩
  · rfl
  · exact congrArg (blank t :: ·) (map_blank_joined rest)

theorem map_blank_assembled (own : Option Template) (below : List (Option Connector × Template)) :
    (assembled own below).map blank = assembled (own.map blank) (below.map blankBehind) := by
  rcases own with _ | t
  · rcases below with _ | ⟨first, rest⟩
    · rfl
    · rw [assembled, Option.map_some, blank_grouped, map_blank_headed]
      rfl
  · rw [assembled, Option.map_some, blank_grouped, List.map_cons, map_blank_joined]
    rfl

theorem blank_unioned (union : Option UnionKind) (t : Template) :
    blank (unioned union t) = unioned union (blank t) := by
  rcases union with _ | u <;> rfl

theorem map_blank_whereClause (below : List (Option Connector × Template)) :
    (whereClause below).map blank = whereClause (below.map blankBehind) := by
  rcases below with _ | ⟨first, rest⟩
  · rfl
  · rw [whereClause, if_neg (by simp), Option.map_some, blank_text, blank_join, map_blank_headed]
    rfl

end Template

/-! ## Erasing keeps the template up to its values -/

open Template

theorem Paging.blank_template_erased (p : Paging) : blank p.erased.template = blank p.template := by
  rcases p with ⟨n, _ | offset⟩ | ⟨_ | offset, _ | first⟩ <;> rfl

theorem Criterion.connector_erased (c : Criterion) : c.erased.connector = c.connector := by
  rcases c with ⟨connector, test, children⟩
  rw [Criterion.erased]

theorem Block.union_erased (b : Block) : b.erased.union = b.union := by
  rcases b with ⟨union⟩
  rw [Block.erased]

mutual

theorem Criterion.blank_template_erased (scope : Scope) : ∀ c : Criterion,
    (c.erased.template scope).map blank = (c.template scope).map blank
  | ⟨connector, test, children⟩ => by
    have own := Test.blank_template_erased scope test
    have below := blankBehind_criteriaErased scope children
    rw [Criterion.erased, Criterion.template, Criterion.template, map_blank_assembled,
      map_blank_assembled, own, below]

theorem blankBehind_criteriaErased (scope : Scope) : ∀ cs : List Criterion,
    (criteriaTemplates scope (criteriaErased cs)).map blankBehind =
      (criteriaTemplates scope cs).map blankBehind
  | [] => rfl
  | c :: cs => by
    have first := Criterion.blank_template_erased scope c
    have rest := blankBehind_criteriaErased scope cs
    rw [criteriaErased, criteriaTemplates, criteriaTemplates, c.connector_erased]
    generalize c.template scope = t, c.erased.template scope = t' at first
    -- Erasing opens and closes no gate, so both criteria render or neither does.
    rcases t with _ | t <;> rcases t' with _ | t'
    · exact rest
    · cases first
    · cases first
    · rw [List.map_cons, List.map_cons, rest, blankBehind, blankBehind, Option.some.inj first]

theorem Test.blank_template_erased (scope : Scope) : ∀ t : Test,
    (t.erased.template scope).map blank = (t.template scope).map blank
  | .column column ⟨operator, operand, upper, _⟩ => by
    rw [Test.erased, Test.template, Test.template]
    exact blank_operandTemplate_erased scope column _ operand
  | .existence query negated => by
    have sub := Select.blank_template_erased scope query
    rw [Test.erased, Test.template, Test.template, Option.map_some, Option.map_some, blank_between,
      blank_between, sub]
  | .group => rfl

theorem blank_operandTemplate_erased (scope : Scope) (column : Column) (left : String) :
    ∀ o : Operand Select Value,
      (operandTemplate scope column left (operandErased o)).map blank =
        (operandTemplate scope column left o).map blank
  | .noValue true => rfl
  | .noValue false => rfl
  | .single none => rfl
  | .single (some _) => rfl
  | .pair none => rfl
  | .pair (some (_, _)) => rfl
  | .list [] => rfl
  | .list (v :: vs) => by
    rw [operandErased, List.map_cons, operandTemplate, operandTemplate, Option.map_some,
      Option.map_some, blank_between, blank_between, blank_join, blank_join, List.map_map,
      List.map_map, List.map_cons, List.map_cons, List.map_map]
    rfl
  | .column none => rfl
  | .column (some _) => rfl
  | .select none => rfl
  | .select (some query) => by
    have sub := Select.blank_template_erased scope query
    rw [operandErased, operandTemplate, operandTemplate, Option.map_some, Option.map_some,
      blank_between, blank_between, sub]

theorem map_blank_blocksErased (scope : Scope) : ∀ bs : List Block,
    (blockTemplates scope (blocksErased bs)).map blank = (blockTemplates scope bs).map blank
  | [] => rfl
  | b :: bs => by
    have first := Block.blank_template_erased scope b
    have rest := map_blank_blocksErased scope bs
    rw [blocksErased, blockTemplates, blockTemplates, List.map_cons, List.map_cons, rest,
      b.union_erased, blank_unioned, blank_unioned, first]

theorem Block.blank_template_erased (scope : Scope) : ∀ b : Block,
    blank (b.erased.template scope) = blank (b.template scope)
  | ⟨union, distinct, items, table, asName, joins, criteria, groupBy⟩ => by
    have clause := blankBehind_criteriaErased (scope.child (aliasesOf table asName joins)) criteria
    rw [Block.erased, Block.template, Block.template]
    simp only [blank_join, List.map_append, ← Option.toList_map, map_blank_whereClause, clause]

theorem Select.blank_template_erased (scope : Scope) : ∀ s : Select,
    blank (s.erased.template scope) = blank (s.template scope)
  | ⟨blocks, orderBy, paging⟩ => by
    have rows := map_blank_blocksErased scope blocks
    rw [Select.erased, Select.template, Select.template]
    rcases paging with _ | p
    · simp [blank_join, rows]
    · simp [blank_join, rows, p.blank_template_erased]

end

theorem blank_assignedTemplate_erased (scope : Scope) (column : Column) (a : Assigned) :
    blank (assignedTemplate scope column a.erased) = blank (assignedTemplate scope column a) := by
  cases a <;> rfl

theorem blank_rowTemplate_erased (scope : Scope) (columns : List Column) (row : List Assigned) :
    blank (rowTemplate scope columns (row.map Assigned.erased)) =
      blank (rowTemplate scope columns row) := by
  rw [rowTemplate, rowTemplate, blank_between, blank_between, blank_join, blank_join]
  simp only [List.map_zipWith, List.zipWith_map_right, blank_assignedTemplate_erased]

/-- Erasing the values of a statement changes nothing but what stands in the holes. -/
theorem Statement.blank_template_erased (scope : Scope) (s : Statement) :
    blank (s.erased.template scope) = blank (s.template scope) := by
  cases s with
  | select s => exact s.blank_template_erased scope
  | insert i =>
    simp only [Statement.erased, Statement.template, blank_text, blank_between, blank_join,
      List.map_map, Function.comp_def, Assignment.erased, blank_assignedTemplate_erased]
  | insertMultiple i =>
    simp only [Statement.erased, Statement.template, blank_text, blank_between, blank_join,
      List.map_map, Function.comp_def, blank_rowTemplate_erased]
  | update u =>
    have clause := blankBehind_criteriaErased scope u.criteria
    simp only [Statement.erased, Statement.template, blank_text, blank_join, List.map_cons,
      ← Option.toList_map, map_blank_whereClause, clause, Assignment.template,
      List.map_map, Function.comp_def, Assignment.erased, blank_assignedTemplate_erased]
  | delete d =>
    have clause := blankBehind_criteriaErased scope d.criteria
    simp only [Statement.erased, Statement.template, blank_join, List.map_cons,
      ← Option.toList_map, map_blank_whereClause, clause]

namespace Rendering

/-- What a rendering shows of the statement to those who do not see its values: its text, the keys
of its parameters and the number of the next value, or that it failed. -/
def shown (outcome : Except Collision (Fragment × Progress)) :
    Option (String × List String × Nat) :=
  outcome.toOption.map fun (f, after) => (f.text, f.parameters.keys, after.next)

theorem Renders.shown_eq {config : Config} {t : Template} {m : Rendering Fragment}
    (h : Renders config t m) (start : Progress) :
    shown (m.run start) =
      if (keysFrom config start.next t.holes).Nodup then
        some (fill config start.next t, keysFrom config start.next t.holes,
          start.next + t.holes.length)
      else none := by
  have outcome := congrArg
    (Option.map fun r : String × List (String × Value) × Nat => (r.1, r.2.1.map Prod.fst, r.2.2))
    (h.outcome start)
  rw [Option.map_map] at outcome
  rw [shown]
  refine Eq.trans outcome ?_
  split
  · rw [Option.map_some, map_fst_entriesFrom]
  · rfl

theorem pagingValue_toInt (n : Nat) :
    ∃ k : Int64, pagingValue n = .int k ∧ k.toInt = min n 9223372036854775807 := by
  refine ⟨_, rfl, ?_⟩
  rw [Int64.toInt_ofNat_of_lt (by omega)]

/-- Statements that differ in nothing but the values they bind are rendered to the same text under
the same keys, or both fail. Each binds its own values, unchanged, and its paging numbers within
64 bits. -/
theorem render_eq_of_erased_eq {a b : Statement} (same : a.erased = b.erased) (config : Config)
    (scope : Scope) (start : Progress) :
    shown ((renderStatement config scope a).run start) =
        shown ((renderStatement config scope b).run start) ∧
      (∀ s ∈ [a, b], ∀ f after, (renderStatement config scope s).run start = .ok (f, after) →
        f.parameters.values = s.holes.map Hole.value) ∧
      ∀ n, ∃ k : Int64, pagingValue n = .int k ∧ k.toInt = min n 9223372036854775807 := by
  refine ⟨?_, ?_, pagingValue_toInt⟩
  · have blanks : blank (a.template scope) = blank (b.template scope) := by
      rw [← a.blank_template_erased, ← b.blank_template_erased, same]
    have holes := congrArg Template.holes blanks
    rw [holes_blank, holes_blank] at holes
    have keys := congrArg (keysFrom config start.next) holes
    rw [keysFrom_blank, keysFrom_blank] at keys
    have count := congrArg List.length holes
    rw [List.length_map, List.length_map] at count
    have text := congrArg (fill config start.next) blanks
    rw [fill_blank, fill_blank] at text
    rw [(renderStatement_renders scope a).shown_eq, (renderStatement_renders scope b).shown_eq,
      keys, count, text]
  · intro s _ f after run
    obtain ⟨fills, -⟩ := (renderStatement_renders scope s).ok run
    rw [Parameters.values, fills.entries, map_snd_entriesFrom, s.holes_template]

def personColumn (name : String) : Column := ⟨⟨0, "person"⟩, name, .text, none, none⟩

/-- A select over a value, a list in a sub-select, and a limit. -/
def personQuery (name : Value) (cities : List Value) (limit : Nat) : Statement :=
  let items : List SelectItem := [.ofColumn (personColumn "id")]
  let sub : Select := ⟨[⟨none, false, items, ⟨1, "home"⟩, none, [],
    [.ofCondition (personColumn "city") ⟨.isIn, .list cities, false, none⟩], []⟩], [], none⟩
  .select ⟨[⟨none, false, items, ⟨0, "person"⟩, some "p", [],
    [.ofCondition (personColumn "name") ⟨.equalTo, .single (some name), false, none⟩,
      (Criterion.existing sub).joined .and], []⟩], [], some (.limit limit none)⟩

theorem personQuery_render_eq :
    (personQuery (.text "Ada") [.text "Lund", .null] 10).erased =
        (personQuery (.int 7) [.bool true, .text "') or 1 = 1"] 3).erased ∧
      shown ((renderStatement {} .empty
          (personQuery (.int 7) [.bool true, .text "') or 1 = 1"] 3)).run {}) =
        some ("select p.id from person p where p.name = $1 and exists " ++
          "(select p.id from home where p.city in ($2,$3)) limit $4", ["p1", "p2", "p3", "p4"], 5) ∧
      ∃ f after, (renderStatement {} .empty
          (personQuery (.int 7) [.bool true, .text "') or 1 = 1"] 3)).run {} = .ok (f, after) ∧
        f.parameters.values = [.int 7, .bool true, .text "') or 1 = 1", .int 3] := by
  have same : (personQuery (.text "Ada") [.text "Lund", .null] 10).erased =
      (personQuery (.int 7) [.bool true, .text "') or 1 = 1"] 3).erased := by
    rfl
  obtain ⟨texts, values, -⟩ := render_eq_of_erased_eq same {} .empty {}
  refine ⟨same, ?_, _, _, rfl, ?_⟩
  · rw [← texts]
    rfl
  · exact (values _ (.tail _ (.head _)) _ _ rfl).trans rfl

end Rendering

end BoundSql
