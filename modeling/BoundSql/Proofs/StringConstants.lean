import BoundSql.Proofs.SketchParts

/-!
# The string constants of statements

`Statement.constants` lists the string constants that a statement writes, in reading order:
those of select lists before those of the criteria and of `group by`, a sub-select in the place of
its criterion, and rows and assignments one after the other. They are the contents of the literals
in the statement's sketch (`Statement.constants_sketch`).
-/

namespace BoundSql

open Sketch

/-! ## The string constants of a select -/

namespace Expression

mutual

def constants : Expression → List String
  | .column _ => []
  | .constant _ => []
  | .stringConstant content => [content]
  | .function _ argument => constants argument
  | .substring argument _ _ => constants argument
  | .aggregate _ none _ => []
  | .aggregate _ (some argument) _ => constants argument
  | .operator _ operands => constantsAll operands

def constantsAll : List Expression → List String
  | [] => []
  | e :: es => constants e ++ constantsAll es

end

end Expression

mutual

def Criterion.constants : Criterion → List String
  | ⟨_, test, children⟩ => test.constants ++ criteriaConstants children

def criteriaConstants : List Criterion → List String
  | [] => []
  | c :: cs => c.constants ++ criteriaConstants cs

/-- The string constants of the sub-select, if there is one. -/
def Test.constants : Test → List String
  | .column _ ⟨_, operand, _, _⟩ => operandConstants operand
  | .existence query _ => query.constants
  | .group => []

def operandConstants : Operand Select Value → List String
  | .select (some query) => query.constants
  | .select none => []
  | .noValue _ => []
  | .single _ => []
  | .pair _ => []
  | .list _ => []
  | .column _ => []

def Block.constants : Block → List String
  | ⟨_, _, items, _, _, _, criteria, groupBy⟩ =>
    items.flatMap (fun item => item.expression.constants) ++ criteriaConstants criteria ++
      groupBy.flatMap Expression.constants

def blocksConstants : List Block → List String
  | [] => []
  | b :: bs => b.constants ++ blocksConstants bs

def Select.constants : Select → List String
  | ⟨blocks, _, _⟩ => blocksConstants blocks

end

/-! ## The string constants of a statement -/

def Assigned.constants : Assigned → List String
  | .stringConstant content => [content]
  | _ => []

/-- The string constants of a row, as far as there are columns for its values. -/
def rowConstants (columns : List Column) (row : List Assigned) : List String :=
  (row.take columns.length).flatMap Assigned.constants

/-- The string constants of a statement in reading order. -/
def Statement.constants : Statement → List String
  | .select s => s.constants
  | .insert i => i.assignments.flatMap fun a => a.value.constants
  | .insertMultiple i => i.rows.flatMap (rowConstants i.columns)
  | .update u => u.assignments.flatMap (fun a => a.value.constants) ++ criteriaConstants u.criteria
  | .delete d => criteriaConstants d.criteria

/-! ## The literals of sketches -/

def Mark.constants : Mark → List String
  | .literal content => [content]
  | _ => []

namespace Sketch

/-- The contents of the literals in reading order. -/
def constants (s : Sketch) : List String := s.flatMap Mark.constants

@[simp]
theorem constants_nil : constants [] = [] := rfl

@[simp]
theorem constants_cons (m : Mark) (s : Sketch) :
    constants (m :: s) = m.constants ++ constants s := rfl

@[simp]
theorem constants_append (s t : Sketch) : constants (s ++ t) = constants s ++ constants t :=
  List.flatMap_append

@[simp]
theorem constants_between (opening closing : String) (s : Sketch) :
    constants (between opening s closing) = constants s :=
  flatMap_between (fun _ => rfl) opening closing s

@[simp]
theorem constants_join (separator : String) (parts : List Sketch) :
    constants (join separator parts) = parts.flatMap constants :=
  flatMap_join (fun _ => rfl) separator parts

@[simp]
theorem constants_joinBySign (sign : String) (parts : List Sketch) :
    constants (joinBySign sign parts) = parts.flatMap constants :=
  flatMap_joinBySign (fun _ => rfl) (fun _ => rfl) sign parts

end Sketch

section Expressions

variable (inner : Scope)

mutual

theorem Expression.constants_sketch : ∀ e : Expression,
    (e.sketch inner).constants = e.constants
  | .column _ => rfl
  | .constant _ => rfl
  | .stringConstant _ => rfl
  | .function _ argument => by
    rw [Expression.sketch, constants_cons, constants_between,
      Expression.constants_sketch argument, Expression.constants]
    rfl
  | .substring argument _ _ => by
    rw [Expression.sketch, constants_between, Expression.constants_sketch argument,
      Expression.constants]
  | .aggregate _ none _ => rfl
  | .aggregate _ (some argument) _ => by
    rw [Expression.sketch, constants_cons, constants_between,
      Expression.constants_sketch argument, Expression.constants]
    rfl
  | .operator _ operands => by
    rw [Expression.sketch, constants_between, constants_joinBySign,
      Expression.constants_sketchAll operands, Expression.constants]

theorem Expression.constants_sketchAll : ∀ es : List Expression,
    (Expression.sketchAll inner es).flatMap Sketch.constants = Expression.constantsAll es
  | [] => rfl
  | e :: es => by
    rw [Expression.sketchAll, List.flatMap_cons, Expression.constants_sketch e,
      Expression.constants_sketchAll es, Expression.constantsAll]

end

theorem SelectItem.constants_sketch (item : SelectItem) :
    (item.sketch inner).constants = item.expression.constants := by
  rcases item with ⟨e, _ | a⟩ <;>
    simp [SelectItem.sketch, Expression.constants_sketch, Mark.constants]

end Expressions

/-! ## The literals of queries -/

theorem constants_tableSketch (table : Table) (asName : Option String) :
    (tableSketch table asName).constants = [] := by
  cases asName <;> rfl

theorem Join.constants_sketch (inner : Scope) (j : Join) : (j.sketch inner).constants = [] := by
  have criteria : ∀ cs : List JoinCriterion,
      Sketch.constants (cs.flatMap (JoinCriterion.sketch inner)) = [] := by
    intro cs
    induction cs with
    | nil => rfl
    | cons c cs ih =>
      rw [List.flatMap_cons, constants_append, ih]
      rfl
  simp [Join.sketch, constants_tableSketch, criteria, Mark.constants]

theorem SortSpec.constants_sketch (s : SortSpec) : s.sketch.constants = [] := by
  rcases s with ⟨name, _ | _⟩ <;> rfl

theorem Paging.constants_sketch (p : Paging) : p.sketch.constants = [] := by
  rcases p with ⟨_, _ | _⟩ | ⟨_ | _, _ | _⟩ <;> rfl

theorem constants_leftSketch (inner : Scope) (column : Column) (upper : Bool) (op : Operator) :
    (leftSketch inner column upper op).constants = [] := by
  cases upper <;> rfl

theorem constants_headSketches (inner : Scope) (distinct : Bool) (items : List SelectItem)
    (table : Table) (asName : Option String) (joins : List Join) :
    (headSketches inner distinct items table asName joins).flatMap Sketch.constants =
      items.flatMap fun item => item.expression.constants := by
  have joined : (joins.map (Join.sketch inner)).flatMap Sketch.constants = [] := by
    simp [List.flatMap_map, Join.constants_sketch]
  simp [headSketches, constants_tableSketch, joined, List.flatMap_map, Mark.constants,
    SelectItem.constants_sketch]

theorem constants_groupBySketches (inner : Scope) (groupBy : List Expression) :
    (groupBySketches inner groupBy).flatMap Sketch.constants =
      groupBy.flatMap Expression.constants := by
  rcases groupBy with _ | ⟨e, es⟩
  · rfl
  · simp [groupBySketches, List.flatMap_map, Mark.constants, Expression.constants_sketch]

theorem constants_orderBySketches (orderBy : List SortSpec) :
    (orderBySketches orderBy).flatMap Sketch.constants = [] := by
  rcases orderBy with _ | ⟨s, ss⟩
  · rfl
  · simp [orderBySketches, List.flatMap_map, Mark.constants, SortSpec.constants_sketch]

theorem constants_whereSketch (outlines : List (Outline Sketch)) :
    (whereSketch outlines).toList.flatMap Sketch.constants =
      (outlinesAtoms outlines).flatMap Sketch.constants :=
  flatMap_whereSketch (fun _ => rfl) outlines

mutual

theorem Criterion.constants_outline (inner : Scope) : ∀ c : Criterion,
    (c.outline inner).atoms.flatMap Sketch.constants = c.constants
  | ⟨_, test, children⟩ => by
    rw [Criterion.outline, Outline.atoms, List.flatMap_append, Test.constants_sketch inner test,
      constants_criteriaOutlines inner children, Criterion.constants]

theorem constants_criteriaOutlines (inner : Scope) : ∀ cs : List Criterion,
    (outlinesAtoms (criteriaOutlines inner cs)).flatMap Sketch.constants = criteriaConstants cs
  | [] => rfl
  | c :: cs => by
    rw [criteriaOutlines, outlinesAtoms, List.flatMap_append, Criterion.constants_outline inner c,
      constants_criteriaOutlines inner cs, criteriaConstants]

theorem Test.constants_sketch (inner : Scope) : ∀ t : Test,
    (t.sketch inner).toList.flatMap Sketch.constants = t.constants
  | .column column ⟨operator, operand, upper, _⟩ => by
    have left := constants_leftSketch inner column upper operator
    rw [Test.sketch, constants_operandSketch inner column left operand, Test.constants]
  | .existence query negated => by
    rw [Test.sketch, Test.constants, ← Select.constants_sketch inner query]
    simp
  | .group => rfl

theorem constants_operandSketch (inner : Scope) (column : Column) {left : Sketch}
    (bare : left.constants = []) : ∀ o : Operand Select Value,
      (operandSketch inner column left o).toList.flatMap Sketch.constants = operandConstants o
  | .noValue true => by simp [operandSketch, operandConstants, bare]
  | .noValue false => rfl
  | .single none => rfl
  | .single (some _) => by simp [operandSketch, operandConstants, bare, Mark.constants]
  | .pair none => rfl
  | .pair (some (_, _)) => by simp [operandSketch, operandConstants, bare, Mark.constants]
  | .list [] => rfl
  | .list (v :: vs) => by
    simp [operandSketch, operandConstants, bare, Mark.constants, List.flatMap_map]
  | .column none => rfl
  | .column (some _) => by simp [operandSketch, operandConstants, bare, Mark.constants]
  | .select none => rfl
  | .select (some query) => by
    rw [operandSketch, operandConstants, ← Select.constants_sketch inner query]
    simp [bare]

theorem Block.constants_sketch (inner : Scope) : ∀ b : Block,
    (b.sketch inner).constants = b.constants
  | ⟨_, distinct, items, table, asName, joins, criteria, groupBy⟩ => by
    have clause := constants_criteriaOutlines (inner.child (aliasesOf table asName joins)) criteria
    rw [Block.sketch, constants_join, List.flatMap_append, List.flatMap_append,
      constants_headSketches, constants_whereSketch, clause, constants_groupBySketches,
      Block.constants]

theorem constants_blocksSketches (inner : Scope) : ∀ bs : List Block,
    (blocksSketches inner bs).flatMap Sketch.constants = blocksConstants bs
  | [] => rfl
  | b :: bs => by
    rw [blocksSketches, List.flatMap_cons, constants_append, Block.constants_sketch inner b,
      constants_blocksSketches inner bs, blocksConstants]
    rcases b.union with _ | u <;> rfl

theorem Select.constants_sketch (inner : Scope) : ∀ s : Select,
    (s.sketch inner).constants = s.constants
  | ⟨blocks, orderBy, paging⟩ => by
    rw [Select.sketch, constants_join, List.flatMap_append, List.flatMap_append,
      constants_blocksSketches inner blocks, constants_orderBySketches, Select.constants]
    rcases paging with _ | p <;> simp [Paging.constants_sketch]

end

theorem constants_assignedSketch (column : Column) (a : Assigned) :
    (assignedSketch column a).constants = a.constants := by
  cases a <;> rfl

theorem constants_columnListSketch (columns : List Column) :
    (columnListSketch columns).constants = [] := by
  simp [columnListSketch, List.flatMap_map, Mark.constants]

theorem constants_insertHeadSketch (table : Table) (columns : List Column) :
    (insertHeadSketch table columns).constants = [] := by
  simp [insertHeadSketch, constants_columnListSketch, Mark.constants]

theorem constants_returningSketch (columns : List Column) :
    (returningSketch columns).constants = [] := by
  unfold returningSketch
  split
  · rfl
  · simp [constants_columnListSketch, Mark.constants]

theorem flatMap_constants_zipWith : ∀ (columns : List Column) (row : List Assigned),
    (List.zipWith assignedSketch columns row).flatMap Sketch.constants = rowConstants columns row
  | [], _ => by simp [rowConstants]
  | _ :: _, [] => rfl
  | column :: columns, a :: row => by
    have ih := flatMap_constants_zipWith columns row
    rw [List.zipWith_cons_cons, List.flatMap_cons, constants_assignedSketch, ih]
    rfl

theorem constants_rowSketch (columns : List Column) (row : List Assigned) :
    (rowSketch columns row).constants = rowConstants columns row := by
  rw [rowSketch, constants_between, constants_join, flatMap_constants_zipWith]

theorem Assignment.constants_sketch (a : Assignment) :
    a.sketch.constants = a.value.constants := by
  simp [Assignment.sketch, Mark.constants, constants_assignedSketch]

/-- The literals of a statement's sketch are its string constants, in reading order. -/
theorem Statement.constants_sketch (s : Statement) : s.sketch.constants = s.constants := by
  cases s with
  | select s => exact Select.constants_sketch .empty s
  | insert i =>
    simp [Statement.sketch, Statement.constants, constants_insertHeadSketch,
      constants_assignedSketch, List.flatMap_map]
  | insertMultiple i =>
    simp [Statement.sketch, Statement.constants, constants_insertHeadSketch, constants_rowSketch,
      constants_returningSketch, List.flatMap_map, Mark.constants]
  | update u =>
    have clause := constants_criteriaOutlines .empty u.criteria
    simp [Statement.sketch, Statement.constants, Assignment.constants_sketch,
      constants_whereSketch, clause, List.flatMap_map, Mark.constants]
  | delete d =>
    have clause := constants_criteriaOutlines .empty d.criteria
    simp [Statement.sketch, Statement.constants, constants_whereSketch, clause, Mark.constants]

end BoundSql
