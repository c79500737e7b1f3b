import BoundSql.Proofs.StringConstants

/-!
# Other contents in the string constants

`Statement.mapConstants` puts other contents in the places of a statement's string constants. This
changes nothing of its sketch but the contents of its literals (`Statement.sketch_mapConstants`).
-/

namespace BoundSql

open Sketch

/-! ## Statements with other string constants -/

namespace Expression

variable (f : String → String)

mutual

def mapConstants : Expression → Expression
  | .column c => .column c
  | .constant text => .constant text
  | .stringConstant content => .stringConstant (f content)
  | .function name argument => .function name (mapConstants argument)
  | .substring argument offset length => .substring (mapConstants argument) offset length
  | .aggregate name none distinct => .aggregate name none distinct
  | .aggregate name (some argument) distinct =>
    .aggregate name (some (mapConstants argument)) distinct
  | .operator sign operands => .operator sign (mapConstantsAll operands)

def mapConstantsAll : List Expression → List Expression
  | [] => []
  | e :: es => mapConstants e :: mapConstantsAll es

end

end Expression

def SelectItem.mapConstants (f : String → String) (item : SelectItem) : SelectItem :=
  { item with expression := item.expression.mapConstants f }

section Map

variable (f : String → String)

mutual

def Criterion.mapConstants : Criterion → Criterion
  | ⟨connector, test, children⟩ =>
    ⟨connector, test.mapConstants, criteriaMapConstants children⟩

def criteriaMapConstants : List Criterion → List Criterion
  | [] => []
  | c :: cs => c.mapConstants :: criteriaMapConstants cs

def Test.mapConstants : Test → Test
  | .column column ⟨operator, operand, upper, onEmptyList⟩ =>
    .column column ⟨operator, operandMapConstants operand, upper, onEmptyList⟩
  | .existence query negated => .existence query.mapConstants negated
  | .group => .group

def operandMapConstants : Operand Select Value → Operand Select Value
  | .select (some query) => .select (some query.mapConstants)
  | .select none => .select none
  | .noValue isOpen => .noValue isOpen
  | .single value => .single value
  | .pair values => .pair values
  | .list values => .list values
  | .column other => .column other

def Block.mapConstants : Block → Block
  | ⟨union, distinct, items, table, asName, joins, criteria, groupBy⟩ =>
    ⟨union, distinct, items.map (SelectItem.mapConstants f), table, asName, joins,
      criteriaMapConstants criteria, groupBy.map (Expression.mapConstants f)⟩

def blocksMapConstants : List Block → List Block
  | [] => []
  | b :: bs => b.mapConstants :: blocksMapConstants bs

def Select.mapConstants : Select → Select
  | ⟨blocks, orderBy, paging⟩ => ⟨blocksMapConstants blocks, orderBy, paging⟩

end

end Map

def Assigned.mapConstants (f : String → String) : Assigned → Assigned
  | .stringConstant content => .stringConstant (f content)
  | a => a

def Assignment.mapConstants (f : String → String) (a : Assignment) : Assignment :=
  { a with value := a.value.mapConstants f }

/-- The statement with other contents in its string constants. -/
def Statement.mapConstants (f : String → String) : Statement → Statement
  | .select s => .select (s.mapConstants f)
  | .insert i => .insert { i with assignments := i.assignments.map (Assignment.mapConstants f) }
  | .insertMultiple i =>
    .insertMultiple { i with rows := i.rows.map (List.map (Assigned.mapConstants f)) }
  | .update u => .update { u with
      assignments := u.assignments.map (Assignment.mapConstants f)
      criteria := criteriaMapConstants f u.criteria }
  | .delete d => .delete { d with criteria := criteriaMapConstants f d.criteria }

/-! ## Sketches with other literals -/

def Mark.mapConstants (f : String → String) : Mark → Mark
  | .literal content => .literal (f content)
  | m => m

namespace Sketch

variable (f : String → String)

/-- The sketch with other contents in its literals. -/
def mapConstants (s : Sketch) : Sketch := s.map (Mark.mapConstants f)

@[simp]
theorem mapConstants_nil : mapConstants f [] = [] := rfl

@[simp]
theorem mapConstants_cons (m : Mark) (s : Sketch) :
    mapConstants f (m :: s) = m.mapConstants f :: mapConstants f s := rfl

@[simp]
theorem mapConstants_append (s t : Sketch) :
    mapConstants f (s ++ t) = mapConstants f s ++ mapConstants f t :=
  List.map_append

@[simp]
theorem mapConstants_between (opening closing : String) (s : Sketch) :
    mapConstants f (between opening s closing) = between opening (mapConstants f s) closing := by
  simp [between, Mark.mapConstants]

theorem mapConstants_intercalate {separator : Sketch}
    (kept : mapConstants f separator = separator) :
    ∀ parts : List Sketch, mapConstants f (List.intercalate separator parts) =
      List.intercalate separator (parts.map (mapConstants f))
  | [] => rfl
  | [part] => by simp
  | part :: next :: parts => by
    have ih := mapConstants_intercalate kept (next :: parts)
    simp only [List.map_cons, List.intercalate_cons_cons, mapConstants_append, kept] at ih ⊢
    rw [ih]

@[simp]
theorem mapConstants_join (separator : String) (parts : List Sketch) :
    mapConstants f (join separator parts) = join separator (parts.map (mapConstants f)) :=
  mapConstants_intercalate f rfl parts

@[simp]
theorem mapConstants_joinBySign (sign : String) (parts : List Sketch) :
    mapConstants f (joinBySign sign parts) = joinBySign sign (parts.map (mapConstants f)) :=
  mapConstants_intercalate f rfl parts

end Sketch

section Map

variable (f : String → String) (inner : Scope)

mutual

theorem Expression.sketch_mapConstants : ∀ e : Expression,
    (e.mapConstants f).sketch inner = (e.sketch inner).mapConstants f
  | .column _ => rfl
  | .constant _ => rfl
  | .stringConstant _ => rfl
  | .function _ argument => by
    rw [Expression.mapConstants, Expression.sketch, Expression.sketch, mapConstants_cons,
      mapConstants_between, Expression.sketch_mapConstants argument]
    rfl
  | .substring argument _ _ => by
    rw [Expression.mapConstants, Expression.sketch, Expression.sketch, mapConstants_between,
      Expression.sketch_mapConstants argument]
  | .aggregate _ none _ => rfl
  | .aggregate _ (some argument) _ => by
    rw [Expression.mapConstants, Expression.sketch, Expression.sketch, mapConstants_cons,
      mapConstants_between, Expression.sketch_mapConstants argument]
    rfl
  | .operator _ operands => by
    rw [Expression.mapConstants, Expression.sketch, Expression.sketch, mapConstants_between,
      mapConstants_joinBySign, Expression.sketchAll_mapConstants operands]

theorem Expression.sketchAll_mapConstants : ∀ es : List Expression,
    Expression.sketchAll inner (Expression.mapConstantsAll f es) =
      (Expression.sketchAll inner es).map (Sketch.mapConstants f)
  | [] => rfl
  | e :: es => by
    rw [Expression.mapConstantsAll, Expression.sketchAll, Expression.sketchAll, List.map_cons,
      Expression.sketch_mapConstants e, Expression.sketchAll_mapConstants es]

end

theorem SelectItem.sketch_mapConstants (item : SelectItem) :
    (item.mapConstants f).sketch inner = (item.sketch inner).mapConstants f := by
  rcases item with ⟨e, _ | a⟩ <;>
    simp [SelectItem.sketch, SelectItem.mapConstants, Expression.sketch_mapConstants,
      Mark.mapConstants]

theorem mapConstants_eq_self {s : Sketch} (bare : s.constants = []) : s.mapConstants f = s := by
  induction s with
  | nil => rfl
  | cons m s ih =>
    rw [constants_cons, List.append_eq_nil_iff] at bare
    rw [mapConstants_cons, ih bare.2]
    cases m with
    | literal content => cases bare.1
    | _ => rfl

theorem map_mapConstants_eq_self {parts : List Sketch}
    (bare : parts.flatMap Sketch.constants = []) : parts.map (mapConstants f) = parts := by
  rw [List.flatMap_eq_nil_iff] at bare
  have same := List.map_congr_left fun part mem => mapConstants_eq_self f (bare part mem)
  exact same.trans (List.map_id' parts)

theorem headSketches_mapConstants (distinct : Bool) (items : List SelectItem) (table : Table)
    (asName : Option String) (joins : List Join) :
    headSketches inner distinct (items.map (SelectItem.mapConstants f)) table asName joins =
      (headSketches inner distinct items table asName joins).map (mapConstants f) := by
  have joined : (joins.map (Join.sketch inner)).map (mapConstants f) =
      joins.map (Join.sketch inner) := by
    refine map_mapConstants_eq_self f ?_
    simp [List.flatMap_map, Join.constants_sketch]
  have tableKept := mapConstants_eq_self f (constants_tableSketch table asName)
  rw [headSketches, headSketches, List.map_cons, List.map_cons, joined]
  simp [Function.comp_def, SelectItem.sketch_mapConstants, Mark.mapConstants, tableKept]

theorem groupBySketches_mapConstants (groupBy : List Expression) :
    groupBySketches inner (groupBy.map (Expression.mapConstants f)) =
      (groupBySketches inner groupBy).map (mapConstants f) := by
  rcases groupBy with _ | ⟨e, es⟩
  · rfl
  · simp [groupBySketches, Function.comp_def, Expression.sketch_mapConstants, Mark.mapConstants]

theorem Token.sketch_map (t : Token Sketch) :
    (t.map (mapConstants f)).sketch = t.sketch.mapConstants f := by
  cases t <;> rfl

theorem tokensSketch_map (ts : List (Token Sketch)) :
    tokensSketch (ts.map (Token.map (mapConstants f))) = (tokensSketch ts).mapConstants f := by
  induction ts with
  | nil => rfl
  | cons t ts ih =>
    rw [tokensSketch] at ih ⊢
    rw [List.map_cons, List.flatMap_cons, ih, Token.sketch_map, ← mapConstants_append]
    rfl

theorem toList_whereSketch_map (outlines : List (Outline Sketch)) :
    (whereSketch (outlinesMap (mapConstants f) outlines)).toList =
      (whereSketch outlines).toList.map (mapConstants f) := by
  rw [whereSketch, whereSketch, Clause.elided, Clause.elided, itemsOf_map]
  rcases itemsOf outlines with _ | ⟨⟨k, first⟩, rest⟩
  · rfl
  · simp only [tailMap, Option.map_some, Clause.tokens, Item.tokens_map, tailTokens_map,
      ← List.map_append, tokensSketch_map, Option.toList_some, List.map_cons, mapConstants_cons]
    rfl

mutual

theorem Criterion.outline_mapConstants (inner : Scope) : ∀ c : Criterion,
    (c.mapConstants f).outline inner = (c.outline inner).map (mapConstants f)
  | ⟨connector, test, children⟩ => by
    rw [Criterion.mapConstants, Criterion.outline, Criterion.outline, Outline.map,
      Test.sketch_mapConstants inner test, criteriaOutlines_mapConstants inner children]

theorem criteriaOutlines_mapConstants (inner : Scope) : ∀ cs : List Criterion,
    criteriaOutlines inner (criteriaMapConstants f cs) =
      outlinesMap (mapConstants f) (criteriaOutlines inner cs)
  | [] => rfl
  | c :: cs => by
    rw [criteriaMapConstants, criteriaOutlines, criteriaOutlines, outlinesMap,
      Criterion.outline_mapConstants inner c, criteriaOutlines_mapConstants inner cs]

theorem Test.sketch_mapConstants (inner : Scope) : ∀ t : Test,
    (t.mapConstants f).sketch inner = (t.sketch inner).map (mapConstants f)
  | .column column ⟨operator, operand, upper, _⟩ => by
    have left := mapConstants_eq_self f (constants_leftSketch inner column upper operator)
    rw [Test.mapConstants, Test.sketch, Test.sketch,
      operandSketch_mapConstants inner column left operand]
  | .existence query negated => by
    rw [Test.mapConstants, Test.sketch, Test.sketch, Select.sketch_mapConstants inner query,
      Option.map_some, mapConstants_between]
  | .group => rfl

theorem operandSketch_mapConstants (inner : Scope) (column : Column) {left : Sketch}
    (same : left.mapConstants f = left) : ∀ o : Operand Select Value,
      operandSketch inner column left (operandMapConstants f o) =
        (operandSketch inner column left o).map (mapConstants f)
  | .noValue true => congrArg some same.symm
  | .noValue false => rfl
  | .single none => rfl
  | .single (some _) => by
    simp [operandMapConstants, operandSketch, same, Mark.mapConstants]
  | .pair none => rfl
  | .pair (some (_, _)) => by
    simp [operandMapConstants, operandSketch, same, Mark.mapConstants]
  | .list [] => rfl
  | .list (v :: vs) => by
    simp [operandMapConstants, operandSketch, same, Mark.mapConstants, Function.comp_def]
  | .column none => rfl
  | .column (some _) => by
    simp [operandMapConstants, operandSketch, same, Mark.mapConstants]
  | .select none => rfl
  | .select (some query) => by
    rw [operandMapConstants, operandSketch, operandSketch, Select.sketch_mapConstants inner query,
      Option.map_some, mapConstants_append, mapConstants_between, same]

theorem Block.sketch_mapConstants (inner : Scope) : ∀ b : Block,
    (b.mapConstants f).sketch inner = (b.sketch inner).mapConstants f
  | ⟨_, distinct, items, table, asName, joins, criteria, groupBy⟩ => by
    have clause :=
      criteriaOutlines_mapConstants (inner.child (aliasesOf table asName joins)) criteria
    rw [Block.mapConstants, Block.sketch, Block.sketch, clause, toList_whereSketch_map,
      headSketches_mapConstants, groupBySketches_mapConstants, mapConstants_join, List.map_append,
      List.map_append]

theorem blocksSketches_mapConstants (inner : Scope) : ∀ bs : List Block,
    blocksSketches inner (blocksMapConstants f bs) =
      (blocksSketches inner bs).map (mapConstants f)
  | [] => rfl
  | b :: bs => by
    have union : (b.mapConstants f).union = b.union := by
      rcases b with ⟨union, _, _, _, _, _, _, _⟩
      rfl
    rw [blocksMapConstants, blocksSketches, blocksSketches, List.map_cons, union,
      Block.sketch_mapConstants inner b, blocksSketches_mapConstants inner bs, mapConstants_append]
    rcases b.union with _ | u <;> rfl

theorem Select.sketch_mapConstants (inner : Scope) : ∀ s : Select,
    (s.mapConstants f).sketch inner = (s.sketch inner).mapConstants f
  | ⟨blocks, orderBy, paging⟩ => by
    have sorted := map_mapConstants_eq_self f (constants_orderBySketches orderBy)
    have paged : (paging.toList.map Paging.sketch).map (mapConstants f) =
        paging.toList.map Paging.sketch := by
      refine map_mapConstants_eq_self f ?_
      simp [List.flatMap_map, Paging.constants_sketch]
    rw [Select.mapConstants, Select.sketch, Select.sketch, blocksSketches_mapConstants inner blocks,
      mapConstants_join, List.map_append, List.map_append, sorted, paged]

end

theorem assignedSketch_mapConstants (column : Column) (a : Assigned) :
    assignedSketch column (a.mapConstants f) = (assignedSketch column a).mapConstants f := by
  cases a <;> rfl

theorem rowSketch_mapConstants (columns : List Column) (row : List Assigned) :
    rowSketch columns (row.map (Assigned.mapConstants f)) =
      (rowSketch columns row).mapConstants f := by
  rw [rowSketch, rowSketch, mapConstants_between, mapConstants_join, List.zipWith_map_right,
    List.map_zipWith]
  simp only [assignedSketch_mapConstants]

theorem Assignment.sketch_mapConstants (a : Assignment) :
    (a.mapConstants f).sketch = a.sketch.mapConstants f := by
  simp [Assignment.sketch, Assignment.mapConstants, assignedSketch_mapConstants, Mark.mapConstants]

/-- Other string constants change nothing of a statement's sketch but the literals. -/
theorem Statement.sketch_mapConstants (s : Statement) :
    (s.mapConstants f).sketch = s.sketch.mapConstants f := by
  have head (table : Table) (columns : List Column) :=
    mapConstants_eq_self f (constants_insertHeadSketch table columns)
  cases s with
  | select s => exact Select.sketch_mapConstants f .empty s
  | insert i =>
    simp [Statement.sketch, Statement.mapConstants, head, Assignment.mapConstants,
      assignedSketch_mapConstants, Function.comp_def]
  | insertMultiple i =>
    have returning := mapConstants_eq_self f (constants_returningSketch i.returning)
    simp [Statement.sketch, Statement.mapConstants, head, rowSketch_mapConstants, returning,
      Mark.mapConstants, Function.comp_def]
  | update u =>
    have clause := criteriaOutlines_mapConstants f .empty u.criteria
    simp [Statement.sketch, Statement.mapConstants, clause, toList_whereSketch_map,
      Mark.mapConstants, Assignment.sketch_mapConstants, Function.comp_def]
  | delete d =>
    have clause := criteriaOutlines_mapConstants f .empty d.criteria
    simp [Statement.sketch, Statement.mapConstants, clause, toList_whereSketch_map,
      Mark.mapConstants]

end Map

end BoundSql
