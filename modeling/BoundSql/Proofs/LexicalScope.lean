import BoundSql.Proofs.Liveness
import BoundSql.Proofs.SketchParts
import BoundSql.Proofs.SketchText

/-!
# Columns are qualified by lexical scoping

The aliases of all levels of a scope, the outermost first, are one list, and the alias of a table is
that of the last entry for the same table (`Scope.aliasOf_eq_lastAlias`).

`Statement.occurrences` lists the columns that a statement writes behind the alias of their table,
in reading order, each with the blocks around it. These are all that a statement takes from the
scope it is rendered in, and each is written with the alias found in the registrations of that scope
and of the blocks around it (`renderStatement_lexical`). Columns that are listed, assigned to or
sorted by are written by their bare name and are no occurrences.
-/

namespace BoundSql

open Sketch

/-! ## The registrations of a scope -/

/-- The alias of the last entry for the same table. -/
def lastAlias (entries : List (Table × String)) (t : Table) : Option String :=
  (entries.filter fun entry => entry.1.same t).getLast?.map Prod.snd

theorem lastAlias_append (outer inner : List (Table × String)) (t : Table) :
    lastAlias (outer ++ inner) t = (lastAlias inner t).or (lastAlias outer t) := by
  simp only [lastAlias, List.filter_append, List.getLast?_append, Option.map_or]

namespace Scope

/-- What is registered on all levels, the outermost first. -/
def registrations (s : Scope) : List (Table × String) := s.levels.reverse.flatten

@[simp]
theorem registrations_empty : empty.registrations = [] := rfl

theorem aliasOf_within (inner outer : Scope) (t : Table) :
    (inner.within outer).aliasOf t = (inner.aliasOf t).or (outer.aliasOf t) := by
  rcases inner with ⟨levels⟩
  induction levels with
  | nil => rfl
  | cons own levels ih =>
    have tail := aliasOf_child ((⟨levels⟩ : Scope).within outer) own t
    have head := aliasOf_child ⟨levels⟩ own t
    rw [← child_within] at tail
    rw [child] at head tail
    rw [tail, ih, head, Option.or_assoc]

theorem registrations_within (inner outer : Scope) :
    (inner.within outer).registrations = outer.registrations ++ inner.registrations := by
  simp [registrations, within]

theorem registrations_child (outer : Scope) (own : List (Table × String)) :
    (outer.child own).registrations = outer.registrations ++ own := by
  simp [registrations, child]

theorem aliasOn_eq_lastAlias (level : List (Table × String)) (t : Table) :
    aliasOn level t = lastAlias level t := by
  rw [aliasOn, lastAlias, ← List.head?_filter, List.filter_reverse, List.head?_reverse]

theorem aliasOf_eq_lastAlias (s : Scope) (t : Table) :
    s.aliasOf t = lastAlias s.registrations t := by
  rcases s with ⟨levels⟩
  induction levels with
  | nil => rfl
  | cons own levels ih =>
    have inside := aliasOf_child ⟨levels⟩ own t
    have whole := registrations_child ⟨levels⟩ own
    rw [child] at inside whole
    rw [inside, whole, lastAlias_append, aliasOn_eq_lastAlias, ih]

end Scope

/-! ## The columns that statements qualify -/

/-- A column, and what is registered by the blocks around it, the outermost first. -/
structure Occurrence where
  registered : List (Table × String)
  column : Column

/-- The column as it is written in the scope outside: behind the alias of its table, if there is
one. -/
def Occurrence.text (outer : Scope) (o : Occurrence) : String :=
  match lastAlias (outer.registrations ++ o.registered) o.column.table with
  | some asName => asName ++ "." ++ o.column.name
  | none => o.column.name

namespace Expression

mutual

def columns : Expression → List Column
  | .column c => [c]
  | .constant _ => []
  | .stringConstant _ => []
  | .function _ argument => columns argument
  | .substring argument _ _ => columns argument
  | .aggregate _ none _ => []
  | .aggregate _ (some argument) _ => columns argument
  | .operator _ operands => columnsAll operands

def columnsAll : List Expression → List Column
  | [] => []
  | e :: es => columns e ++ columnsAll es

end

end Expression

def Join.columns (j : Join) : List Column := j.criteria.flatMap fun c => [c.left, c.right]

mutual

def Criterion.occurrences (registered : List (Table × String)) : Criterion → List Occurrence
  | ⟨_, test, children⟩ => test.occurrences registered ++ criteriaOccurrences registered children

def criteriaOccurrences (registered : List (Table × String)) : List Criterion → List Occurrence
  | [] => []
  | c :: cs => c.occurrences registered ++ criteriaOccurrences registered cs

def Test.occurrences (registered : List (Table × String)) : Test → List Occurrence
  | .column column ⟨_, operand, _, _⟩ => operandOccurrences registered column operand
  | .existence query _ => query.occurrences registered
  | .group => []

/-- The columns of a condition, none if its gate is closed. -/
def operandOccurrences (registered : List (Table × String)) (left : Column) :
    Operand Select Value → List Occurrence
  | .noValue true => [⟨registered, left⟩]
  | .noValue false => []
  | .single none => []
  | .single (some _) => [⟨registered, left⟩]
  | .pair none => []
  | .pair (some _) => [⟨registered, left⟩]
  | .list [] => []
  | .list (_ :: _) => [⟨registered, left⟩]
  | .column none => []
  | .column (some other) => [⟨registered, left⟩, ⟨registered, other⟩]
  | .select none => []
  | .select (some query) => ⟨registered, left⟩ :: query.occurrences registered

def Block.occurrences (registered : List (Table × String)) : Block → List Occurrence
  | ⟨_, _, items, table, asName, joins, criteria, groupBy⟩ =>
    let inside := registered ++ aliasesOf table asName joins
    (items.flatMap (fun item => item.expression.columns) ++ joins.flatMap Join.columns).map
        (Occurrence.mk inside) ++
      criteriaOccurrences inside criteria ++
      (groupBy.flatMap Expression.columns).map (Occurrence.mk inside)

def blocksOccurrences (registered : List (Table × String)) : List Block → List Occurrence
  | [] => []
  | b :: bs => b.occurrences registered ++ blocksOccurrences registered bs

def Select.occurrences (registered : List (Table × String)) : Select → List Occurrence
  | ⟨blocks, _, _⟩ => blocksOccurrences registered blocks

end

def Assigned.columns : Assigned → List Column
  | .column other => [other]
  | _ => []

/-- The columns that a statement qualifies, in reading order. -/
def Statement.occurrences : Statement → List Occurrence
  | .select s => s.occurrences []
  | .insert i => (i.assignments.flatMap fun a => a.value.columns).map (Occurrence.mk [])
  | .insertMultiple i =>
    (i.rows.flatMap fun row => (row.take i.columns.length).flatMap Assigned.columns).map
      (Occurrence.mk [])
  | .update u =>
    (u.assignments.flatMap fun a => a.value.columns).map (Occurrence.mk []) ++
      criteriaOccurrences [] u.criteria
  | .delete d => criteriaOccurrences [] d.criteria

/-! ## The columns of sketches -/

def Mark.occurrences : Mark → List Occurrence
  | .column inner c => [⟨inner.registrations, c⟩]
  | _ => []

namespace Sketch

def occurrences (s : Sketch) : List Occurrence := s.flatMap Mark.occurrences

@[simp]
theorem occurrences_nil : occurrences [] = [] := rfl

@[simp]
theorem occurrences_cons (m : Mark) (s : Sketch) :
    occurrences (m :: s) = m.occurrences ++ occurrences s := rfl

@[simp]
theorem occurrences_append (s t : Sketch) : occurrences (s ++ t) = occurrences s ++ occurrences t :=
  List.flatMap_append

@[simp]
theorem occurrences_between (opening closing : String) (s : Sketch) :
    occurrences (between opening s closing) = occurrences s :=
  flatMap_between (fun _ => rfl) opening closing s

@[simp]
theorem occurrences_join (separator : String) (parts : List Sketch) :
    occurrences (join separator parts) = parts.flatMap occurrences :=
  flatMap_join (fun _ => rfl) separator parts

@[simp]
theorem occurrences_joinBySign (sign : String) (parts : List Sketch) :
    occurrences (joinBySign sign parts) = parts.flatMap occurrences :=
  flatMap_joinBySign (fun _ => rfl) (fun _ => rfl) sign parts

end Sketch

section Expressions

variable (inner : Scope)

mutual

theorem Expression.occurrences_sketch : ∀ e : Expression,
    (e.sketch inner).occurrences = e.columns.map (Occurrence.mk inner.registrations)
  | .column _ => rfl
  | .constant _ => rfl
  | .stringConstant _ => rfl
  | .function _ argument => by
    rw [Expression.sketch, occurrences_cons, occurrences_between,
      Expression.occurrences_sketch argument, Expression.columns]
    rfl
  | .substring argument _ _ => by
    rw [Expression.sketch, occurrences_between, Expression.occurrences_sketch argument,
      Expression.columns]
  | .aggregate _ none _ => rfl
  | .aggregate _ (some argument) _ => by
    rw [Expression.sketch, occurrences_cons, occurrences_between,
      Expression.occurrences_sketch argument, Expression.columns]
    rfl
  | .operator _ operands => by
    rw [Expression.sketch, occurrences_between, occurrences_joinBySign,
      Expression.occurrences_sketchAll operands, Expression.columns]

theorem Expression.occurrences_sketchAll : ∀ es : List Expression,
    (Expression.sketchAll inner es).flatMap Sketch.occurrences =
      (Expression.columnsAll es).map (Occurrence.mk inner.registrations)
  | [] => rfl
  | e :: es => by
    rw [Expression.sketchAll, List.flatMap_cons, Expression.occurrences_sketch e,
      Expression.occurrences_sketchAll es, Expression.columnsAll, List.map_append]

end

theorem SelectItem.occurrences_sketch (item : SelectItem) :
    (item.sketch inner).occurrences =
      item.expression.columns.map (Occurrence.mk inner.registrations) := by
  rcases item with ⟨e, _ | a⟩ <;>
    simp [SelectItem.sketch, Expression.occurrences_sketch, Mark.occurrences]

theorem occurrences_tableSketch (table : Table) (asName : Option String) :
    (tableSketch table asName).occurrences = [] := by
  cases asName <;> rfl

theorem Join.occurrences_sketch (j : Join) :
    (j.sketch inner).occurrences = j.columns.map (Occurrence.mk inner.registrations) := by
  have criteria : ∀ cs : List JoinCriterion,
      Sketch.occurrences (cs.flatMap (JoinCriterion.sketch inner)) =
        (cs.flatMap fun c => [c.left, c.right]).map (Occurrence.mk inner.registrations) := by
    intro cs
    induction cs with
    | nil => rfl
    | cons c cs ih =>
      rw [List.flatMap_cons, occurrences_append, ih, List.flatMap_cons, List.map_append]
      rfl
  simp [Join.sketch, Join.columns, occurrences_tableSketch, criteria, Mark.occurrences]

theorem SortSpec.occurrences_sketch (s : SortSpec) : s.sketch.occurrences = [] := by
  rcases s with ⟨name, _ | _⟩ <;> rfl

theorem Paging.occurrences_sketch (p : Paging) : p.sketch.occurrences = [] := by
  rcases p with ⟨_, _ | _⟩ | ⟨_ | _, _ | _⟩ <;> rfl

theorem occurrences_leftSketch (column : Column) (upper : Bool) (op : Operator) :
    (leftSketch inner column upper op).occurrences = [⟨inner.registrations, column⟩] := by
  cases upper <;> rfl

theorem occurrences_headSketches (distinct : Bool) (items : List SelectItem) (table : Table)
    (asName : Option String) (joins : List Join) :
    (headSketches inner distinct items table asName joins).flatMap Sketch.occurrences =
      (items.flatMap (fun item => item.expression.columns) ++ joins.flatMap Join.columns).map
        (Occurrence.mk inner.registrations) := by
  simp [headSketches, occurrences_tableSketch, List.flatMap_map, List.map_flatMap,
    Mark.occurrences, SelectItem.occurrences_sketch, Join.occurrences_sketch]

theorem occurrences_groupBySketches (groupBy : List Expression) :
    (groupBySketches inner groupBy).flatMap Sketch.occurrences =
      (groupBy.flatMap Expression.columns).map (Occurrence.mk inner.registrations) := by
  rcases groupBy with _ | ⟨e, es⟩
  · rfl
  · simp [groupBySketches, List.flatMap_map, List.map_flatMap, Mark.occurrences,
      Expression.occurrences_sketch]

end Expressions

theorem occurrences_orderBySketches (orderBy : List SortSpec) :
    (orderBySketches orderBy).flatMap Sketch.occurrences = [] := by
  rcases orderBy with _ | ⟨s, ss⟩
  · rfl
  · simp [orderBySketches, List.flatMap_map, Mark.occurrences, SortSpec.occurrences_sketch]

theorem occurrences_whereSketch (outlines : List (Outline Sketch)) :
    (whereSketch outlines).toList.flatMap Sketch.occurrences =
      (outlinesAtoms outlines).flatMap Sketch.occurrences :=
  flatMap_whereSketch (fun _ => rfl) outlines

mutual

theorem Criterion.occurrences_outline (inner : Scope) : ∀ c : Criterion,
    (c.outline inner).atoms.flatMap Sketch.occurrences = c.occurrences inner.registrations
  | ⟨_, test, children⟩ => by
    rw [Criterion.outline, Outline.atoms, List.flatMap_append, Test.occurrences_sketch inner test,
      occurrences_criteriaOutlines inner children, Criterion.occurrences]

theorem occurrences_criteriaOutlines (inner : Scope) : ∀ cs : List Criterion,
    (outlinesAtoms (criteriaOutlines inner cs)).flatMap Sketch.occurrences =
      criteriaOccurrences inner.registrations cs
  | [] => rfl
  | c :: cs => by
    rw [criteriaOutlines, outlinesAtoms, List.flatMap_append,
      Criterion.occurrences_outline inner c, occurrences_criteriaOutlines inner cs,
      criteriaOccurrences]

theorem Test.occurrences_sketch (inner : Scope) : ∀ t : Test,
    (t.sketch inner).toList.flatMap Sketch.occurrences = t.occurrences inner.registrations
  | .column column ⟨operator, operand, upper, _⟩ => by
    have left := occurrences_leftSketch inner column upper operator
    rw [Test.sketch, occurrences_operandSketch inner column left operand, Test.occurrences]
  | .existence query negated => by
    rw [Test.sketch, Test.occurrences, ← Select.occurrences_sketch inner query]
    simp
  | .group => rfl

theorem occurrences_operandSketch (inner : Scope) (column : Column) {left : Sketch}
    (alone : left.occurrences = [⟨inner.registrations, column⟩]) : ∀ o : Operand Select Value,
      (operandSketch inner column left o).toList.flatMap Sketch.occurrences =
        operandOccurrences inner.registrations column o
  | .noValue true => by simp [operandSketch, operandOccurrences, alone]
  | .noValue false => rfl
  | .single none => rfl
  | .single (some _) => by simp [operandSketch, operandOccurrences, alone, Mark.occurrences]
  | .pair none => rfl
  | .pair (some (_, _)) => by simp [operandSketch, operandOccurrences, alone, Mark.occurrences]
  | .list [] => rfl
  | .list (v :: vs) => by
    simp [operandSketch, operandOccurrences, alone, Mark.occurrences, List.flatMap_map]
  | .column none => rfl
  | .column (some _) => by simp [operandSketch, operandOccurrences, alone, Mark.occurrences]
  | .select none => rfl
  | .select (some query) => by
    rw [operandSketch, operandOccurrences, ← Select.occurrences_sketch inner query]
    simp [alone]

theorem Block.occurrences_sketch (inner : Scope) : ∀ b : Block,
    (b.sketch inner).occurrences = b.occurrences inner.registrations
  | ⟨_, distinct, items, table, asName, joins, criteria, groupBy⟩ => by
    have own := inner.registrations_child (aliasesOf table asName joins)
    have clause :=
      occurrences_criteriaOutlines (inner.child (aliasesOf table asName joins)) criteria
    rw [Block.sketch, occurrences_join, List.flatMap_append, List.flatMap_append,
      occurrences_headSketches, occurrences_whereSketch, clause, occurrences_groupBySketches,
      Block.occurrences, own]

theorem occurrences_blocksSketches (inner : Scope) : ∀ bs : List Block,
    (blocksSketches inner bs).flatMap Sketch.occurrences = blocksOccurrences inner.registrations bs
  | [] => rfl
  | b :: bs => by
    rw [blocksSketches, List.flatMap_cons, occurrences_append, Block.occurrences_sketch inner b,
      occurrences_blocksSketches inner bs, blocksOccurrences]
    rcases b.union with _ | u <;> rfl

theorem Select.occurrences_sketch (inner : Scope) : ∀ s : Select,
    (s.sketch inner).occurrences = s.occurrences inner.registrations
  | ⟨blocks, orderBy, paging⟩ => by
    rw [Select.sketch, occurrences_join, List.flatMap_append, List.flatMap_append,
      occurrences_blocksSketches inner blocks, occurrences_orderBySketches, Select.occurrences]
    rcases paging with _ | p <;> simp [Paging.occurrences_sketch]

end

theorem occurrences_assignedSketch (column : Column) (a : Assigned) :
    (assignedSketch column a).occurrences = a.columns.map (Occurrence.mk []) := by
  cases a <;> rfl

theorem occurrences_columnListSketch (columns : List Column) :
    (columnListSketch columns).occurrences = [] := by
  simp [columnListSketch, List.flatMap_map, Mark.occurrences]

theorem occurrences_insertHeadSketch (table : Table) (columns : List Column) :
    (insertHeadSketch table columns).occurrences = [] := by
  simp [insertHeadSketch, occurrences_columnListSketch, Mark.occurrences]

theorem occurrences_returningSketch (columns : List Column) :
    (returningSketch columns).occurrences = [] := by
  unfold returningSketch
  split
  · rfl
  · simp [occurrences_columnListSketch, Mark.occurrences]

theorem occurrences_rowSketch (columns : List Column) (row : List Assigned) :
    (rowSketch columns row).occurrences =
      ((row.take columns.length).flatMap Assigned.columns).map (Occurrence.mk []) := by
  rw [rowSketch, occurrences_between, occurrences_join]
  induction columns generalizing row with
  | nil => simp
  | cons column columns ih =>
    cases row with
    | nil => rfl
    | cons a row =>
      rw [List.zipWith_cons_cons, List.flatMap_cons, occurrences_assignedSketch, ih,
        List.length_cons, List.take_succ_cons, List.flatMap_cons, List.map_append]

theorem Assignment.occurrences_sketch (a : Assignment) :
    a.sketch.occurrences = a.value.columns.map (Occurrence.mk []) := by
  simp [Assignment.sketch, Mark.occurrences, occurrences_assignedSketch]

/-- The columns of a statement's sketch are those it qualifies, with the aliases around them. -/
theorem Statement.occurrences_sketch (s : Statement) : s.sketch.occurrences = s.occurrences := by
  cases s with
  | select s => exact Select.occurrences_sketch .empty s
  | insert i =>
    simp [Statement.sketch, Statement.occurrences, occurrences_insertHeadSketch,
      occurrences_assignedSketch, List.flatMap_map, List.map_flatMap]
  | insertMultiple i =>
    simp [Statement.sketch, Statement.occurrences, occurrences_insertHeadSketch,
      occurrences_rowSketch, occurrences_returningSketch, List.flatMap_map, List.map_flatMap,
      Mark.occurrences]
  | update u =>
    have clause := occurrences_criteriaOutlines .empty u.criteria
    simp [Statement.sketch, Statement.occurrences, Assignment.occurrences_sketch,
      occurrences_whereSketch, clause, List.flatMap_map, List.map_flatMap, Mark.occurrences]
  | delete d =>
    have clause := occurrences_criteriaOutlines .empty d.criteria
    simp [Statement.sketch, Statement.occurrences, occurrences_whereSketch, clause,
      Mark.occurrences]

/-! ## Rendering -/

/-- The texts that a sketch shows for its columns, in reading order. -/
def Sketch.columnTexts (outer : Scope) (s : Sketch) : List String :=
  s.flatMap fun
    | .column inner c => [c.qualified (inner.within outer)]
    | _ => []

theorem Column.qualified_within (inner outer : Scope) (c : Column) :
    c.qualified (inner.within outer) = Occurrence.text outer ⟨inner.registrations, c⟩ := by
  rw [Column.qualified, Scope.aliasOf_eq_lastAlias, Scope.registrations_within]
  rfl

theorem Sketch.columnTexts_eq (outer : Scope) (s : Sketch) :
    s.columnTexts outer = s.occurrences.map (Occurrence.text outer) := by
  rw [Sketch.columnTexts, Sketch.occurrences, List.map_flatMap]
  refine List.flatMap_congr fun m _ => ?_
  cases m with
  | column inner c => exact congrArg (fun text => [text]) (Column.qualified_within inner outer c)
  | _ => rfl

/-- The scope around a sketch counts only for the tables of its columns. -/
theorem Sketch.template_congr {a b : Scope} {s : Sketch}
    (agree : ∀ o ∈ s.occurrences, a.aliasOf o.column.table = b.aliasOf o.column.table) :
    s.template a = s.template b := by
  refine List.map_congr_left fun m mem => ?_
  cases m with
  | column inner c =>
    have seen : ⟨inner.registrations, c⟩ ∈ s.occurrences :=
      List.mem_flatMap.mpr ⟨_, mem, List.mem_singleton_self _⟩
    have same := agree _ seen
    simp only [Mark.piece, Column.qualified, Scope.aliasOf_within, same]
  | _ => rfl

namespace Rendering

/-- The alias of a table is the last of its registrations on all levels of a scope, the outermost
first. A statement renders the same in two scopes that have the same aliases for the tables of the
columns it qualifies, and each of these columns is written with the alias found in the registrations
of the scope and of the blocks around the column. -/
theorem renderStatement_lexical (config : Config) (s : Statement) :
    (∀ (scope : Scope) (t : Table), scope.aliasOf t = lastAlias scope.registrations t) ∧
      (∀ a b : Scope, (∀ o ∈ s.occurrences, a.aliasOf o.column.table = b.aliasOf o.column.table) →
        ∀ start, given ((renderStatement config a s).run start) =
          given ((renderStatement config b s).run start)) ∧
      ∀ outer, Renders config (s.sketch.template outer) (renderStatement config outer s) ∧
        s.sketch.columnTexts outer = s.occurrences.map (Occurrence.text outer) := by
  refine ⟨Scope.aliasOf_eq_lastAlias, ?_, ?_⟩
  · intro a b agree start
    have same : s.sketch.template a = s.sketch.template b := by
      apply Sketch.template_congr
      rw [s.occurrences_sketch]
      exact agree
    have first := renderStatement_renders_sketch config a s
    rw [same] at first
    exact first.given_eq (renderStatement_renders_sketch config b s) start
  · intro outer
    refine ⟨renderStatement_renders_sketch config outer s, ?_⟩
    rw [Sketch.columnTexts_eq, s.occurrences_sketch]

/-- The column of one of several tables of the same name. -/
def siblingColumn (identity : Nat) (name : String) : Column :=
  ⟨⟨identity, "person"⟩, name, .integer, none, none⟩

/-- The ids of one of these tables, under an alias. -/
def siblingSelect (identity : Nat) (asName : String) (criteria : List Criterion) : Select :=
  ⟨[⟨none, false, [⟨.column (siblingColumn identity "id"), none⟩], ⟨identity, "person"⟩, asName, [],
    criteria, []⟩], [], none⟩

/-- Persons of the age of another person, whose age is that of a person outside. -/
def agedPersons : Statement :=
  .select (siblingSelect 1 "q"
    [.existing (siblingSelect 2 "r"
        [.ofCondition (siblingColumn 2 "age") (.column .equalTo (siblingColumn 1 "age"))]),
      (Criterion.ofCondition (siblingColumn 1 "age")
        (.column .equalTo (siblingColumn 0 "age"))).joined .and])

/-- One scope registers the table outside twice, and the other a further table of its name. -/
theorem agedPersons_lexical :
    (∀ o ∈ agedPersons.occurrences,
        Scope.aliasOf ⟨[[(⟨0, "person"⟩, "p"), (⟨0, "person"⟩, "o")]]⟩ o.column.table =
          Scope.aliasOf ⟨[[(⟨3, "person"⟩, "p")], [(⟨0, "person"⟩, "o")]]⟩ o.column.table) ∧
      given ((renderStatement {} ⟨[[(⟨3, "person"⟩, "p")], [(⟨0, "person"⟩, "o")]]⟩
          agedPersons).run {}) =
        some ("select q.id from person q where exists " ++
          "(select r.id from person r where r.age = q.age) and q.age = o.age", .empty, 1) := by
  have agree : ∀ o ∈ agedPersons.occurrences,
      Scope.aliasOf ⟨[[(⟨0, "person"⟩, "p"), (⟨0, "person"⟩, "o")]]⟩ o.column.table =
        Scope.aliasOf ⟨[[(⟨3, "person"⟩, "p")], [(⟨0, "person"⟩, "o")]]⟩ o.column.table := by
    decide +kernel
  refine ⟨agree, ?_⟩
  rw [← (renderStatement_lexical {} agedPersons).2.1 _ _ agree {}]
  rfl

end Rendering

end BoundSql
