import BoundSql.Proofs.Template

/-!
# The templates of statements

`Statement.holes` lists the values that a statement binds, read off the statement alone: those of
its rows or assignments first, then those of its criteria, each node before the nodes below it and
a sub-select in its place, block after block, and the paging numbers last.

`Statement.template` is the text around them. It knows the aliases in scope, but no configuration
and no number. `Statement.holes_template` says that the two agree.
-/

namespace BoundSql

open Rendering

/-! ## The values of a statement -/

def Paging.holes : Paging → List Hole
  | .limit n offset => ⟨none, pagingValue n⟩ :: offset.toList.map (⟨none, pagingValue ·⟩)
  | .fetch offset first => (offset.toList ++ first.toList).map (⟨none, pagingValue ·⟩)

mutual

/-- The values of a criterion: its own, then those below it. -/
def Criterion.holes : Criterion → List Hole
  | ⟨_, test, children⟩ => test.holes ++ criteriaHoles children

def criteriaHoles : List Criterion → List Hole
  | [] => []
  | c :: cs => c.holes ++ criteriaHoles cs

def Test.holes : Test → List Hole
  | .column column ⟨_, operand, _, _⟩ => operandHoles column operand
  | .existence query _ => query.holes
  | .group => []

/-- The values a column is compared with; a closed gate has none. -/
def operandHoles (column : Column) : Operand Select Value → List Hole
  | .noValue _ => []
  | .single value => value.toList.map (⟨some column, ·⟩)
  | .pair none => []
  | .pair (some (a, b)) => [⟨some column, a⟩, ⟨some column, b⟩]
  | .list values => values.map (⟨some column, ·⟩)
  | .column _ => []
  | .select none => []
  | .select (some query) => query.holes

def Block.holes : Block → List Hole
  | ⟨_, _, _, _, _, _, criteria, _⟩ => criteriaHoles criteria

def blocksHoles : List Block → List Hole
  | [] => []
  | b :: bs => b.holes ++ blocksHoles bs

/-- The values of a select: those of its blocks, then those of its paging clause. -/
def Select.holes : Select → List Hole
  | ⟨blocks, _, paging⟩ => blocksHoles blocks ++ paging.toList.flatMap Paging.holes

end

def assignedHoles (column : Column) : Assigned → List Hole
  | .value v => [⟨some column, v⟩]
  | _ => []

def rowHoles (columns : List Column) (row : List Assigned) : List Hole :=
  (List.zipWith assignedHoles columns row).flatten

/-- The values of a statement, in the order in which it binds them. -/
def Statement.holes : Statement → List Hole
  | .select s => s.holes
  | .insert i => i.assignments.flatMap fun a => assignedHoles a.column a.value
  | .insertMultiple i => i.rows.flatMap (rowHoles i.columns)
  | .update u =>
    (u.assignments.flatMap fun a => assignedHoles a.column a.value) ++ criteriaHoles u.criteria
  | .delete d => criteriaHoles d.criteria

/-! ## The text around them -/

namespace Template

/-- A criterion behind another one, joined by `and` if it has no connector. -/
def joined (criterion : Option Connector × Template) : Template :=
  .text ((criterion.1.getD .and).keyword ++ " ") :: criterion.2

/-- Criteria one behind the other, the first of them without its connector. -/
def headed : List (Option Connector × Template) → List Template
  | [] => []
  | (_, t) :: rest => t :: rest.map joined

/-- A test with the criteria below it, in parentheses if there is more than one. -/
def assembled (own : Option Template) (below : List (Option Connector × Template)) :
    Option Template :=
  match own, below with
  | none, [] => none
  | some t, rest => some (grouped (t :: rest.map joined))
  | none, first :: rest => some (grouped (headed (first :: rest)))

def unioned (union : Option UnionKind) (t : Template) : Template :=
  match union with
  | some u => .text (u.keyword ++ " ") :: t
  | none => t

/-- The `where` clause of criteria, unless there are none. -/
def whereClause (criteria : List (Option Connector × Template)) : Option Template :=
  if criteria.isEmpty then none else some (.text "where " :: join " " (headed criteria))

end Template

open Template

def Paging.template : Paging → Template
  | .limit n none => [.text "limit ", .hole ⟨none, pagingValue n⟩]
  | .limit n (some offset) =>
    [.text "limit ", .hole ⟨none, pagingValue n⟩, .text " offset ",
      .hole ⟨none, pagingValue offset⟩]
  | .fetch none none => ofText ""
  | .fetch (some offset) none =>
    [.text "offset ", .hole ⟨none, pagingValue offset⟩, .text " rows"]
  | .fetch none (some first) =>
    [.text "fetch first ", .hole ⟨none, pagingValue first⟩, .text " rows only"]
  | .fetch (some offset) (some first) =>
    [.text "offset ", .hole ⟨none, pagingValue offset⟩, .text " rows fetch first ",
      .hole ⟨none, pagingValue first⟩, .text " rows only"]

mutual

/-- A criterion with all below it, unless nothing of it renders. -/
def Criterion.template (scope : Scope) : Criterion → Option Template
  | ⟨_, test, children⟩ => assembled (test.template scope) (criteriaTemplates scope children)

/-- The criteria that render, with their connectors. -/
def criteriaTemplates (scope : Scope) : List Criterion → List (Option Connector × Template)
  | [] => []
  | c :: cs =>
    match c.template scope with
    | none => criteriaTemplates scope cs
    | some t => (c.connector, t) :: criteriaTemplates scope cs

def Test.template (scope : Scope) : Test → Option Template
  | .column column ⟨operator, operand, upper, _⟩ =>
    operandTemplate scope column (leftSide scope column upper ++ " " ++ operator.keyword) operand
  | .existence query negated =>
    some (between ((if negated then "not exists" else "exists") ++ " (")
      (query.template scope) ")")
  | .group => none

/-- A condition behind its left side and operator, unless its gate is closed. -/
def operandTemplate (scope : Scope) (column : Column) (left : String) :
    Operand Select Value → Option Template
  | .noValue true => some (ofText left)
  | .noValue false => none
  | .single none => none
  | .single (some v) => some [.text (left ++ " "), .hole ⟨some column, v⟩]
  | .pair none => none
  | .pair (some (a, b)) =>
    some [.text (left ++ " "), .hole ⟨some column, a⟩, .text " and ", .hole ⟨some column, b⟩]
  | .list [] => none
  | .list (v :: vs) =>
    some (between (left ++ " (") (join "," ((v :: vs).map fun v => [.hole ⟨some column, v⟩])) ")")
  | .column none => none
  | .column (some other) => some (ofText (left ++ " " ++ other.qualified scope))
  | .select none => none
  | .select (some query) => some (between (left ++ " (") (query.template scope) ")")

def blockTemplates (scope : Scope) : List Block → List Template
  | [] => []
  | b :: bs => unioned b.union (b.template scope) :: blockTemplates scope bs

def Block.template (scope : Scope) : Block → Template
  | ⟨_, distinct, items, table, asName, joins, criteria, groupBy⟩ =>
    let inner := scope.child (aliasesOf table asName joins)
    join " " ((headTexts inner distinct items table asName joins).map ofText ++
      (whereClause (criteriaTemplates inner criteria)).toList ++
      (groupByTexts inner groupBy).map ofText)

def Select.template (scope : Scope) : Select → Template
  | ⟨blocks, orderBy, paging⟩ =>
    join " " (blockTemplates scope blocks ++ (orderByTexts orderBy).map ofText ++
      paging.toList.map Paging.template)

end

def assignedTemplate (scope : Scope) (column : Column) : Assigned → Template
  | .null => ofText "null"
  | .constant text => ofText text
  | .stringConstant text => ofText (Text.literal text)
  | .value v => [.hole ⟨some column, v⟩]
  | .column other => ofText (other.qualified scope)

def rowTemplate (scope : Scope) (columns : List Column) (row : List Assigned) : Template :=
  between "(" (join ", " (List.zipWith (assignedTemplate scope) columns row)) ")"

def Assignment.template (scope : Scope) (a : Assignment) : Template :=
  .text (a.column.name ++ " = ") :: assignedTemplate scope a.column a.value

def Statement.template (scope : Scope) : Statement → Template
  | .select s => s.template scope
  | .insert i =>
    .text (insertHead i.table (i.assignments.map Assignment.column)) ::
      between "values ("
        (join ", " (i.assignments.map fun a => assignedTemplate scope a.column a.value)) ")"
  | .insertMultiple i =>
    .text (insertHead i.table i.columns) ::
      between "values " (join ", " (i.rows.map (rowTemplate scope i.columns)))
        (returningText i.returning)
  | .update u =>
    join " " ((.text ("update " ++ u.table.name ++ " set ") ::
      join ", " (u.assignments.map (Assignment.template scope))) ::
        (whereClause (criteriaTemplates scope u.criteria)).toList)
  | .delete d =>
    join " " (ofText ("delete from " ++ d.table.name) ::
      (whereClause (criteriaTemplates scope d.criteria)).toList)

/-! ## The holes of the text -/

namespace Template

@[simp]
theorem holesOf_map_joined : ∀ criteria : List (Option Connector × Template),
    holesOf (criteria.map joined) = holesOf (criteria.map Prod.snd)
  | [] => rfl
  | (_, t) :: criteria => congrArg (holes t ++ ·) (holesOf_map_joined criteria)

@[simp]
theorem holesOf_headed : ∀ criteria : List (Option Connector × Template),
    holesOf (headed criteria) = holesOf (criteria.map Prod.snd)
  | [] => rfl
  | (_, t) :: rest => congrArg (holes t ++ ·) (holesOf_map_joined rest)

theorem holes_assembled (own : Option Template) (below : List (Option Connector × Template)) :
    holesOf (assembled own below).toList = holesOf own.toList ++ holesOf (below.map Prod.snd) := by
  rcases own with _ | t
  · rcases below with _ | ⟨first, rest⟩
    · rfl
    · simp [assembled]
  · simp [assembled]

@[simp]
theorem holes_unioned (union : Option UnionKind) (t : Template) :
    holes (unioned union t) = holes t := by
  rcases union with _ | u <;> rfl

theorem holes_whereClause (criteria : List (Option Connector × Template)) :
    holesOf (whereClause criteria).toList = holesOf (criteria.map Prod.snd) := by
  rcases criteria with _ | ⟨first, rest⟩
  · rfl
  · simp [whereClause]

end Template

theorem Paging.holes_template (p : Paging) : Template.holes p.template = p.holes := by
  rcases p with ⟨n, _ | offset⟩ | ⟨_ | offset, _ | first⟩ <;> rfl

mutual

theorem Criterion.holes_template (scope : Scope) :
    ∀ c : Criterion, holesOf (c.template scope).toList = c.holes
  | ⟨_, test, children⟩ => by
    rw [Criterion.template, holes_assembled, Test.holes_template scope test,
      holes_criteriaTemplates scope children, Criterion.holes]

theorem holes_criteriaTemplates (scope : Scope) : ∀ cs : List Criterion,
    holesOf ((criteriaTemplates scope cs).map Prod.snd) = criteriaHoles cs
  | [] => rfl
  | c :: cs => by
    have first := Criterion.holes_template scope c
    have rest := holes_criteriaTemplates scope cs
    rw [criteriaTemplates, criteriaHoles, ← first, ← rest]
    rcases c.template scope with _ | t
    · rfl
    · simp

theorem Test.holes_template (scope : Scope) :
    ∀ t : Test, holesOf (t.template scope).toList = t.holes
  | .column column ⟨operator, operand, upper, _⟩ => by
    rw [Test.template, holes_operandTemplate, Test.holes]
  | .existence query negated => by
    rw [Test.template, Test.holes, ← Select.holes_template scope query]
    simp
  | .group => rfl

theorem holes_operandTemplate (scope : Scope) (column : Column) (left : String) :
    ∀ o : Operand Select Value,
      holesOf (operandTemplate scope column left o).toList = operandHoles column o
  | .noValue true => rfl
  | .noValue false => rfl
  | .single none => rfl
  | .single (some _) => rfl
  | .pair none => rfl
  | .pair (some (_, _)) => rfl
  | .list [] => rfl
  | .list (v :: vs) => by
    rw [operandTemplate, Option.toList_some, holesOf_cons, holes_between, holes_join,
      holesOf_map_hole, holesOf_nil, List.append_nil, operandHoles]
  | .column none => rfl
  | .column (some _) => rfl
  | .select none => rfl
  | .select (some query) => by
    rw [operandTemplate, Option.toList_some, holesOf_cons, holes_between, holesOf_nil,
      List.append_nil, Select.holes_template scope query, operandHoles]

theorem holes_blockTemplates (scope : Scope) :
    ∀ bs : List Block, holesOf (blockTemplates scope bs) = blocksHoles bs
  | [] => rfl
  | b :: bs => by
    have first := Block.holes_template scope b
    have rest := holes_blockTemplates scope bs
    rw [blockTemplates, blocksHoles, ← first, ← rest, holesOf_cons, holes_unioned]

theorem Block.holes_template (scope : Scope) :
    ∀ b : Block, Template.holes (b.template scope) = b.holes
  | ⟨_, distinct, items, table, asName, joins, criteria, groupBy⟩ => by
    have clause := holes_criteriaTemplates (scope.child (aliasesOf table asName joins)) criteria
    rw [Block.template, Block.holes, ← clause]
    simp [holes_whereClause]

theorem Select.holes_template (scope : Scope) :
    ∀ s : Select, Template.holes (s.template scope) = s.holes
  | ⟨blocks, orderBy, paging⟩ => by
    have rows := holes_blockTemplates scope blocks
    rw [Select.template, Select.holes, ← rows]
    rcases paging with _ | p
    · simp
    · simp [Paging.holes_template]

end

theorem holes_assignedTemplate (scope : Scope) (column : Column) (a : Assigned) :
    Template.holes (assignedTemplate scope column a) = assignedHoles column a := by
  cases a <;> rfl

theorem holes_rowTemplate (scope : Scope) (columns : List Column) (row : List Assigned) :
    Template.holes (rowTemplate scope columns row) = rowHoles columns row := by
  rw [rowTemplate, holes_between, holes_join, holesOf, rowHoles, List.flatMap_def,
    List.map_zipWith]
  simp only [holes_assignedTemplate]

/-- The holes of the text are the values of the statement, whatever the aliases. -/
theorem Statement.holes_template (scope : Scope) (s : Statement) :
    Template.holes (s.template scope) = s.holes := by
  cases s with
  | select s => exact Select.holes_template scope s
  | insert i =>
    simp only [Statement.template, Statement.holes, holes_text, holes_between, holes_join, holesOf,
      List.flatMap_map, holes_assignedTemplate]
  | insertMultiple i =>
    simp only [Statement.template, Statement.holes, holes_text, holes_between, holes_join, holesOf,
      List.flatMap_map, holes_rowTemplate]
  | update u =>
    have clause := holes_criteriaTemplates scope u.criteria
    simp only [Statement.template, Statement.holes, holes_join, holesOf_cons, holes_text,
      holes_whereClause, clause]
    simp only [holesOf, List.flatMap_map, Assignment.template, holes_text, holes_assignedTemplate]
  | delete d =>
    have clause := holes_criteriaTemplates scope d.criteria
    simp only [Statement.template, Statement.holes, holes_join, holesOf_cons, holes_ofText,
      holes_whereClause, clause, List.nil_append]

end BoundSql
