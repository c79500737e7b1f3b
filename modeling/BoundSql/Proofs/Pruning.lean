import BoundSql.Proofs.Liveness

/-!
# Elided criteria are invisible

`Statement.pruned` takes out of every where clause, those of sub-selects included, the criteria of
which nothing renders, and puts a bare group for every condition whose gate is closed. Taking a
criterion out can change which one comes first and how many stand in a group, but only as eliding it
does when it is rendered: the pruned statement has the same template (`Statement.template_pruned`).
So the two give the same text, parameters and next number. What is left is trim, which means that
something of every criterion renders, and nothing is taken out of a trim statement
(`render_pruned`).
-/

namespace BoundSql

open Template

mutual

def Criterion.pruned : Criterion → Criterion
  | ⟨connector, test, children⟩ => ⟨connector, test.pruned, criteriaPruned children⟩

/-- The criteria of which something renders, themselves pruned. -/
def criteriaPruned : List Criterion → List Criterion
  | [] => []
  | c :: cs => if c.isLive then c.pruned :: criteriaPruned cs else criteriaPruned cs

/-- A test with its sub-select pruned; nothing is tested behind a closed gate. -/
def Test.pruned : Test → Test
  | .column column ⟨operator, operand, upper, onEmptyList⟩ =>
    if operand.isOpen then .column column ⟨operator, operandPruned operand, upper, onEmptyList⟩
    else .group
  | .existence query negated => .existence query.pruned negated
  | .group => .group

def operandPruned : Operand Select Value → Operand Select Value
  | .noValue isOpen => .noValue isOpen
  | .single value => .single value
  | .pair values => .pair values
  | .list values => .list values
  | .column other => .column other
  | .select none => .select none
  | .select (some query) => .select (some query.pruned)

def Block.pruned : Block → Block
  | ⟨union, distinct, items, table, asName, joins, criteria, groupBy⟩ =>
    ⟨union, distinct, items, table, asName, joins, criteriaPruned criteria, groupBy⟩

def blocksPruned : List Block → List Block
  | [] => []
  | b :: bs => b.pruned :: blocksPruned bs

def Select.pruned : Select → Select
  | ⟨blocks, orderBy, paging⟩ => ⟨blocksPruned blocks, orderBy, paging⟩

end

/-- The statement without the criteria that render nothing. -/
def Statement.pruned : Statement → Statement
  | .select s => .select s.pruned
  | .insert i => .insert i
  | .insertMultiple i => .insertMultiple i
  | .update u => .update { u with criteria := criteriaPruned u.criteria }
  | .delete d => .delete { d with criteria := criteriaPruned d.criteria }

/-! ## Pruning keeps the template -/

theorem Criterion.connector_pruned (c : Criterion) : c.pruned.connector = c.connector := by
  rcases c with ⟨connector, test, children⟩
  rw [Criterion.pruned]

theorem Block.union_pruned (b : Block) : b.pruned.union = b.union := by
  rcases b with ⟨union⟩
  rw [Block.pruned]

theorem operandTemplate_eq_none {scope : Scope} {column : Column} {left : String}
    {o : Operand Select Value} (closed : ¬ o.isOpen = true) :
    operandTemplate scope column left o = none := by
  rwa [← Option.isNone_iff_eq_none, ← Option.not_isSome, isSome_operandTemplate, Bool.not_eq_true',
    ← Bool.not_eq_true]

mutual

theorem Criterion.template_pruned (scope : Scope) : ∀ c : Criterion,
    c.pruned.template scope = c.template scope
  | ⟨connector, test, children⟩ => by
    have own := Test.template_pruned scope test
    have below := criteriaTemplates_criteriaPruned scope children
    rw [Criterion.pruned, Criterion.template, Criterion.template, own, below]

theorem criteriaTemplates_criteriaPruned (scope : Scope) : ∀ cs : List Criterion,
    criteriaTemplates scope (criteriaPruned cs) = criteriaTemplates scope cs
  | [] => rfl
  | c :: cs => by
    have first := Criterion.template_pruned scope c
    have rest := criteriaTemplates_criteriaPruned scope cs
    rw [criteriaPruned]
    by_cases live : c.isLive = true
    · rw [if_pos live, criteriaTemplates, criteriaTemplates, first, rest, c.connector_pruned]
    · have none : c.template scope = none :=
        Criterion.template_eq_none_iff.mpr (Bool.eq_false_iff.mpr live)
      rw [if_neg live, criteriaTemplates, none, rest]

theorem Test.template_pruned (scope : Scope) : ∀ t : Test,
    t.pruned.template scope = t.template scope
  | .column column ⟨operator, operand, upper, onEmptyList⟩ => by
    have sub := operandTemplate_operandPruned scope column
      (Rendering.leftSide scope column upper ++ " " ++ operator.keyword) operand
    rw [Test.pruned]
    by_cases live : operand.isOpen = true
    · rw [if_pos live, Test.template, Test.template, sub]
    · rw [if_neg live, Test.template, Test.template, operandTemplate_eq_none live]
  | .existence query negated => by
    have sub := Select.template_pruned scope query
    rw [Test.pruned, Test.template, Test.template, sub]
  | .group => rfl

theorem operandTemplate_operandPruned (scope : Scope) (column : Column) (left : String) :
    ∀ o : Operand Select Value,
      operandTemplate scope column left (operandPruned o) = operandTemplate scope column left o
  | .noValue _ => rfl
  | .single _ => rfl
  | .pair _ => rfl
  | .list _ => rfl
  | .column _ => rfl
  | .select none => rfl
  | .select (some query) => by
    have sub := Select.template_pruned scope query
    rw [operandPruned, operandTemplate, operandTemplate, sub]

theorem blockTemplates_blocksPruned (scope : Scope) : ∀ bs : List Block,
    blockTemplates scope (blocksPruned bs) = blockTemplates scope bs
  | [] => rfl
  | b :: bs => by
    have first := Block.template_pruned scope b
    have rest := blockTemplates_blocksPruned scope bs
    rw [blocksPruned, blockTemplates, blockTemplates, first, rest, b.union_pruned]

theorem Block.template_pruned (scope : Scope) : ∀ b : Block,
    b.pruned.template scope = b.template scope
  | ⟨union, distinct, items, table, asName, joins, criteria, groupBy⟩ => by
    have clause :=
      criteriaTemplates_criteriaPruned (scope.child (aliasesOf table asName joins)) criteria
    rw [Block.pruned, Block.template, Block.template]
    simp only [clause]

theorem Select.template_pruned (scope : Scope) : ∀ s : Select,
    s.pruned.template scope = s.template scope
  | ⟨blocks, orderBy, paging⟩ => by
    have rows := blockTemplates_blocksPruned scope blocks
    rw [Select.pruned, Select.template, Select.template, rows]

end

/-- What is left out of a pruned statement was not written anyway. -/
theorem Statement.template_pruned (scope : Scope) (s : Statement) :
    s.pruned.template scope = s.template scope := by
  cases s with
  | select s => exact s.template_pruned scope
  | insert i => rfl
  | insertMultiple i => rfl
  | update u =>
    simp only [Statement.pruned, Statement.template, criteriaTemplates_criteriaPruned]
  | delete d =>
    simp only [Statement.pruned, Statement.template, criteriaTemplates_criteriaPruned]

/-! ## What is left -/

mutual

/-- Something of the criterion renders, and so it is with all below it and in its sub-selects. -/
def Criterion.Trim : Criterion → Prop
  | ⟨connector, test, children⟩ =>
    Criterion.isLive ⟨connector, test, children⟩ = true ∧ test.Trim ∧ criteriaTrim children

def criteriaTrim : List Criterion → Prop
  | [] => True
  | c :: cs => c.Trim ∧ criteriaTrim cs

/-- The test is no condition behind a closed gate. -/
def Test.Trim : Test → Prop
  | .column _ ⟨_, operand, _, _⟩ => operand.isOpen = true ∧ operandTrim operand
  | .existence query _ => query.Trim
  | .group => True

def operandTrim : Operand Select Value → Prop
  | .select (some query) => query.Trim
  | .select none => True
  | .noValue _ => True
  | .single _ => True
  | .pair _ => True
  | .list _ => True
  | .column _ => True

def Block.Trim : Block → Prop
  | ⟨_, _, _, _, _, _, criteria, _⟩ => criteriaTrim criteria

def blocksTrim : List Block → Prop
  | [] => True
  | b :: bs => b.Trim ∧ blocksTrim bs

def Select.Trim : Select → Prop
  | ⟨blocks, _, _⟩ => blocksTrim blocks

end

/-- No where clause of the statement has a criterion of which nothing renders, or a condition behind
a closed gate. -/
def Statement.Trim : Statement → Prop
  | .select s => s.Trim
  | .insert _ => True
  | .insertMultiple _ => True
  | .update u => criteriaTrim u.criteria
  | .delete d => criteriaTrim d.criteria

theorem Criterion.isLive_pruned (c : Criterion) : c.pruned.isLive = c.isLive := by
  rw [← Criterion.isSome_template .empty, ← Criterion.isSome_template .empty,
    Criterion.template_pruned]

theorem isOpen_operandPruned (o : Operand Select Value) :
    (operandPruned o).isOpen = o.isOpen := by
  cases o with
  | select query => cases query <;> rfl
  | _ => rfl

mutual

theorem Criterion.trim_pruned : ∀ c : Criterion, c.isLive = true → c.pruned.Trim
  | ⟨connector, test, children⟩, live => by
    rw [← Criterion.isLive_pruned] at live
    rw [Criterion.pruned] at live ⊢
    exact ⟨live, Test.trim_pruned test, criteriaTrim_criteriaPruned children⟩

theorem criteriaTrim_criteriaPruned : ∀ cs : List Criterion, criteriaTrim (criteriaPruned cs)
  | [] => trivial
  | c :: cs => by
    have rest := criteriaTrim_criteriaPruned cs
    rw [criteriaPruned]
    by_cases live : c.isLive = true
    · rw [if_pos live]
      exact ⟨Criterion.trim_pruned c live, rest⟩
    · rwa [if_neg live]

theorem Test.trim_pruned : ∀ t : Test, t.pruned.Trim
  | .column column ⟨operator, operand, upper, onEmptyList⟩ => by
    have sub := operandTrim_operandPruned operand
    rw [Test.pruned]
    by_cases live : operand.isOpen = true
    · rw [if_pos live]
      exact ⟨(isOpen_operandPruned operand).trans live, sub⟩
    · rw [if_neg live]
      trivial
  | .existence query negated => Select.trim_pruned query
  | .group => trivial

theorem operandTrim_operandPruned : ∀ o : Operand Select Value, operandTrim (operandPruned o)
  | .noValue _ => trivial
  | .single _ => trivial
  | .pair _ => trivial
  | .list _ => trivial
  | .column _ => trivial
  | .select none => trivial
  | .select (some query) => Select.trim_pruned query

theorem blocksTrim_blocksPruned : ∀ bs : List Block, blocksTrim (blocksPruned bs)
  | [] => trivial
  | b :: bs => ⟨Block.trim_pruned b, blocksTrim_blocksPruned bs⟩

theorem Block.trim_pruned : ∀ b : Block, b.pruned.Trim
  | ⟨_, _, _, _, _, _, criteria, _⟩ => criteriaTrim_criteriaPruned criteria

theorem Select.trim_pruned : ∀ s : Select, s.pruned.Trim
  | ⟨blocks, _, _⟩ => blocksTrim_blocksPruned blocks

end

theorem Statement.trim_pruned (s : Statement) : s.pruned.Trim := by
  cases s with
  | select s => exact s.trim_pruned
  | insert i => trivial
  | insertMultiple i => trivial
  | update u => exact criteriaTrim_criteriaPruned u.criteria
  | delete d => exact criteriaTrim_criteriaPruned d.criteria

/-! ## Nothing is taken out of what is left -/

mutual

theorem Criterion.Trim.pruned_eq : ∀ {c : Criterion}, c.Trim → c.pruned = c
  | ⟨connector, test, children⟩, ⟨_, own, below⟩ => by
    rw [Criterion.pruned, Test.Trim.pruned_eq own, criteriaPruned_eq below]

theorem criteriaPruned_eq : ∀ {cs : List Criterion}, criteriaTrim cs → criteriaPruned cs = cs
  | [], _ => rfl
  | ⟨connector, test, children⟩ :: cs, ⟨first, rest⟩ => by
    rw [criteriaPruned, if_pos first.1, Criterion.Trim.pruned_eq first, criteriaPruned_eq rest]

theorem Test.Trim.pruned_eq : ∀ {t : Test}, t.Trim → t.pruned = t
  | .column column ⟨operator, operand, upper, onEmptyList⟩, ⟨live, sub⟩ => by
    rw [Test.pruned, if_pos live, operandPruned_eq sub]
  | .existence query negated, sub => by
    rw [Test.pruned, Select.Trim.pruned_eq sub]
  | .group, _ => rfl

theorem operandPruned_eq : ∀ {o : Operand Select Value}, operandTrim o → operandPruned o = o
  | .noValue _, _ => rfl
  | .single _, _ => rfl
  | .pair _, _ => rfl
  | .list _, _ => rfl
  | .column _, _ => rfl
  | .select none, _ => rfl
  | .select (some query), sub => by
    rw [operandPruned, Select.Trim.pruned_eq sub]

theorem blocksPruned_eq : ∀ {bs : List Block}, blocksTrim bs → blocksPruned bs = bs
  | [], _ => rfl
  | b :: bs, ⟨first, rest⟩ => by
    rw [blocksPruned, Block.Trim.pruned_eq first, blocksPruned_eq rest]

theorem Block.Trim.pruned_eq : ∀ {b : Block}, b.Trim → b.pruned = b
  | ⟨union, distinct, items, table, asName, joins, criteria, groupBy⟩, clause => by
    rw [Block.pruned, criteriaPruned_eq clause]

theorem Select.Trim.pruned_eq : ∀ {s : Select}, s.Trim → s.pruned = s
  | ⟨blocks, orderBy, paging⟩, rows => by
    rw [Select.pruned, blocksPruned_eq rows]

end

theorem Statement.Trim.pruned_eq {s : Statement} (trim : s.Trim) : s.pruned = s := by
  cases s with
  | select s => exact congrArg _ (Select.Trim.pruned_eq trim)
  | insert i => rfl
  | insertMultiple i => rfl
  | update u => rw [Statement.pruned, criteriaPruned_eq trim]
  | delete d => rw [Statement.pruned, criteriaPruned_eq trim]

namespace Rendering

/-- In a pruned statement something of every criterion renders, and pruning it again changes
nothing; it gives the same text, the same parameters and the same next number as the statement
itself, or both fail. -/
theorem render_pruned (s : Statement) :
    s.pruned.Trim ∧ s.pruned.pruned = s.pruned ∧
      ∀ (config : Config) (scope : Scope) (start : Progress),
        given ((renderStatement config scope s.pruned).run start) =
          given ((renderStatement config scope s).run start) := by
  refine ⟨s.trim_pruned, s.trim_pruned.pruned_eq, ?_⟩
  intro config scope start
  have pruned : Renders config (s.template scope) (renderStatement config scope s.pruned) := by
    rw [← s.template_pruned scope]
    exact renderStatement_renders scope s.pruned
  exact pruned.given_eq (renderStatement_renders scope s) start

end Rendering

end BoundSql
