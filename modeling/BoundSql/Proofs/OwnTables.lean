import BoundSql.Proofs.LexicalScope

/-!
# A block's own tables

The tables that a block selects from and joins are its own. A column of one of them is written as
the block's own if it stands behind an alias that the block gives the table, or bare if the block
gives it none. Aliases of the block's own count before those from around it, but a table to which
the block gives no alias is looked up there: if anything around the block has an alias for the same
table, the column shows that one and so belongs to a row outside.

`own_columns_iff`: columns of the block's own tables are written as its own, unless the block gives
the table no alias and something around it does. A column of another table is meant for the rows
outside, and nothing is said of it.
-/

namespace BoundSql

/-! ## What blocks give aliases to -/

/-- The tables a block selects from: its first one and those joined to it. -/
def Block.tables (b : Block) : List Table := b.table :: b.joins.map Join.table

/-- The block gives the table the alias. -/
def Block.Gives (b : Block) (t : Table) (a : String) : Prop :=
  (b.table.same t = true ∧ b.asName = some a) ∨
    ∃ j ∈ b.joins, j.table.same t = true ∧ j.asName = some a

/-- On some level there is an alias for the table. -/
def Scope.Gives (s : Scope) (t : Table) (a : String) : Prop :=
  ∃ level ∈ s.levels, ∃ entry ∈ level, entry.1.same t = true ∧ entry.2 = a

theorem mem_aliasEntry {entry : Table × String} {table : Table} {asName : Option String} :
    entry ∈ aliasEntry table asName ↔ entry.1 = table ∧ asName = some entry.2 := by
  obtain ⟨t, a⟩ := entry
  rcases asName with _ | a'
  · simp [aliasEntry]
  · simp [aliasEntry, eq_comm]

theorem Block.gives_iff {b : Block} {t : Table} {a : String} :
    b.Gives t a ↔ ∃ entry ∈ b.aliases, entry.1.same t = true ∧ entry.2 = a := by
  simp only [Block.aliases, aliasesOf, List.mem_append, List.mem_flatMap, mem_aliasEntry]
  constructor
  · rintro (⟨same, given⟩ | ⟨j, joined, same, given⟩)
    · exact ⟨(b.table, a), .inl ⟨rfl, given⟩, same, rfl⟩
    · exact ⟨(j.table, a), .inr ⟨j, joined, rfl, given⟩, same, rfl⟩
  · rintro ⟨⟨t', a⟩, ⟨rfl, given⟩ | ⟨j, joined, rfl, given⟩, same, rfl⟩
    · exact .inl ⟨same, given⟩
    · exact .inr ⟨j, joined, same, given⟩

theorem Scope.gives_iff {s : Scope} {t : Table} {a : String} :
    s.Gives t a ↔ ∃ entry ∈ s.registrations, entry.1.same t = true ∧ entry.2 = a := by
  simp only [Scope.Gives, Scope.registrations, List.mem_flatten, List.mem_reverse]
  constructor
  · rintro ⟨level, mem, entry, inside, both⟩
    exact ⟨entry, ⟨level, mem, inside⟩, both⟩
  · rintro ⟨entry, ⟨level, mem, inside⟩, both⟩
    exact ⟨level, mem, entry, inside, both⟩

theorem lastAlias_eq_none_iff {entries : List (Table × String)} {t : Table} :
    lastAlias entries t = none ↔ ¬ ∃ a, ∃ entry ∈ entries, entry.1.same t = true ∧ entry.2 = a := by
  rw [lastAlias, Option.map_eq_none_iff, List.getLast?_eq_none_iff, List.filter_eq_nil_iff]
  constructor
  · rintro none ⟨_, entry, mem, same, -⟩
    exact none entry mem same
  · intro none entry mem same
    exact none ⟨_, entry, mem, same, rfl⟩

theorem Occurrence.text_eq (outer : Scope) (o : Occurrence) :
    o.text outer = (lastAlias (outer.registrations ++ o.registered) o.column.table).elim
      o.column.name fun a => a ++ "." ++ o.column.name := by
  unfold text
  split <;> next found => rw [found]; rfl

theorem mem_of_lastAlias {entries : List (Table × String)} {t : Table} {a : String}
    (h : lastAlias entries t = some a) :
    ∃ entry ∈ entries, entry.1.same t = true ∧ entry.2 = a := by
  obtain ⟨entry, last, rfl⟩ := Option.map_eq_some_iff.mp h
  obtain ⟨mem, same⟩ := List.mem_filter.mp (List.mem_of_getLast? last)
  exact ⟨entry, mem, same, rfl⟩

/-! ## Columns where they are written -/

/-- A column in the block that writes it, and the blocks around that one, the outermost first. -/
structure Resident where
  around : List Block
  home : Block
  column : Column

namespace Resident

/-- The column is one of the block's own tables. -/
def AtHome (r : Resident) : Prop := ∃ t ∈ r.home.tables, t.same r.column.table = true

/-- The block gives the table of the column an alias. -/
def Aliased (r : Resident) : Prop := ∃ a, r.home.Gives r.column.table a

/-- Something around the block gives the table of the column an alias. -/
def AliasedAround (outer : Scope) (r : Resident) : Prop :=
  ∃ a, outer.Gives r.column.table a ∨ ∃ b ∈ r.around, b.Gives r.column.table a

/-- The text stands for the column as one of the block's own: behind an alias that the block gives
the table, or bare if it gives none. -/
def OwnText (r : Resident) (text : String) : Prop :=
  (∃ a, r.home.Gives r.column.table a ∧ text = a ++ "." ++ r.column.name) ∨
    (¬ r.Aliased ∧ text = r.column.name)

/-- What is registered where the column stands. -/
def occurrence (r : Resident) : Occurrence :=
  ⟨r.around.flatMap Block.aliases ++ r.home.aliases, r.column⟩

/-- The column as it is written in the scope outside. -/
def text (outer : Scope) (r : Resident) : String := r.occurrence.text outer

theorem lastAlias_home_eq_none_iff {r : Resident} :
    lastAlias r.home.aliases r.column.table = none ↔ ¬ r.Aliased := by
  simp only [lastAlias_eq_none_iff, Aliased, Block.gives_iff]

theorem lastAlias_around_eq_none_iff {outer : Scope} {r : Resident} :
    lastAlias (outer.registrations ++ r.around.flatMap Block.aliases) r.column.table = none ↔
      ¬ r.AliasedAround outer := by
  rw [lastAlias_eq_none_iff, AliasedAround, not_iff_not]
  refine exists_congr fun a => ?_
  simp only [Scope.gives_iff, Block.gives_iff, List.mem_append, List.mem_flatMap]
  constructor
  · rintro ⟨entry, mem | ⟨b, enclosing, mem⟩, both⟩
    · exact .inl ⟨entry, mem, both⟩
    · exact .inr ⟨b, enclosing, entry, mem, both⟩
  · rintro (⟨entry, mem, both⟩ | ⟨b, enclosing, entry, mem, both⟩)
    · exact ⟨entry, .inl mem, both⟩
    · exact ⟨entry, .inr ⟨b, enclosing, mem⟩, both⟩

theorem ownText_iff (outer : Scope) (r : Resident) :
    r.OwnText (r.text outer) ↔ r.Aliased ∨ ¬ r.AliasedAround outer := by
  have found : lastAlias (outer.registrations ++ r.occurrence.registered) r.column.table =
      (lastAlias r.home.aliases r.column.table).or
        (lastAlias (outer.registrations ++ r.around.flatMap Block.aliases) r.column.table) := by
    rw [occurrence, ← List.append_assoc, lastAlias_append]
  have written : r.text outer =
      (lastAlias (outer.registrations ++ r.occurrence.registered) r.column.table).elim
        r.column.name fun a => a ++ "." ++ r.column.name := r.occurrence.text_eq outer
  rw [found] at written
  rcases own : lastAlias r.home.aliases r.column.table with _ | a
  · have unaliased := lastAlias_home_eq_none_iff.mp own
    rw [own, Option.none_or] at written
    rcases around : lastAlias _ r.column.table with _ | a <;> rw [around] at written
    · rw [Option.elim_none] at written
      refine iff_of_true (.inr ⟨unaliased, written⟩) (.inr ?_)
      exact lastAlias_around_eq_none_iff.mp around
    · -- The alias from around stands before the name, and the block gives none that it could be.
      rw [Option.elim_some] at written
      refine iff_of_false ?_ ?_
      · rintro (⟨a, given, -⟩ | ⟨-, bare⟩)
        · exact unaliased ⟨a, given⟩
        · have longer := congrArg String.length (written.symm.trans bare)
          have dot : ".".length = 1 := rfl
          rw [String.length_append, String.length_append, dot] at longer
          omega
      · rintro (aliased | free)
        · exact unaliased aliased
        · rw [lastAlias_around_eq_none_iff.mpr free] at around
          cases around
  · have given := Block.gives_iff.mpr (mem_of_lastAlias own)
    rw [own, Option.some_or, Option.elim_some] at written
    exact iff_of_true (.inl ⟨a, given, written⟩) (.inl ⟨a, given⟩)

end Resident

/-! ## The columns of a block -/

mutual

def Criterion.residents (around : List Block) (home : Block) : Criterion → List Resident
  | ⟨_, test, children⟩ => test.residents around home ++ criteriaResidents around home children
termination_by structural c => c

def criteriaResidents (around : List Block) (home : Block) : List Criterion → List Resident
  | [] => []
  | c :: cs => c.residents around home ++ criteriaResidents around home cs
termination_by structural cs => cs

def Test.residents (around : List Block) (home : Block) : Test → List Resident
  | .column column ⟨_, operand, _, _⟩ => operandResidents around home column operand
  | .existence query _ => query.residents (around ++ [home])
  | .group => []
termination_by structural t => t

/-- The columns of a condition, none if its gate is closed. -/
def operandResidents (around : List Block) (home : Block) (left : Column) :
    Operand Select Value → List Resident
  | .noValue true => [⟨around, home, left⟩]
  | .noValue false => []
  | .single none => []
  | .single (some _) => [⟨around, home, left⟩]
  | .pair none => []
  | .pair (some _) => [⟨around, home, left⟩]
  | .list [] => []
  | .list (_ :: _) => [⟨around, home, left⟩]
  | .column none => []
  | .column (some other) => [⟨around, home, left⟩, ⟨around, home, other⟩]
  | .select none => []
  | .select (some query) => ⟨around, home, left⟩ :: query.residents (around ++ [home])
termination_by structural o => o

/-- The columns that a block and the sub-selects of its criteria qualify, in reading order: those of
its select list, its joins, its criteria and its `group by`. -/
def Block.residents (around : List Block) : Block → List Resident
  | ⟨union, distinct, items, table, asName, joins, criteria, groupBy⟩ =>
    let home : Block := ⟨union, distinct, items, table, asName, joins, criteria, groupBy⟩
    (items.flatMap (fun item => item.expression.columns) ++ joins.flatMap Join.columns).map
        (Resident.mk around home) ++
      criteriaResidents around home criteria ++
      (groupBy.flatMap Expression.columns).map (Resident.mk around home)
termination_by structural b => b

def blocksResidents (around : List Block) : List Block → List Resident
  | [] => []
  | b :: bs => b.residents around ++ blocksResidents around bs
termination_by structural bs => bs

def Select.residents (around : List Block) : Select → List Resident
  | ⟨blocks, _, _⟩ => blocksResidents around blocks
termination_by structural s => s

end

/-! ## What they show -/

theorem flatMap_aliases_snoc (around : List Block) (home : Block) :
    (around ++ [home]).flatMap Block.aliases = around.flatMap Block.aliases ++ home.aliases := by
  rw [List.flatMap_append, List.flatMap_singleton]

mutual

theorem Criterion.map_residents (around : List Block) (home : Block) : ∀ c : Criterion,
    (c.residents around home).map Resident.occurrence =
      c.occurrences (around.flatMap Block.aliases ++ home.aliases)
  | ⟨_, test, children⟩ => by
    rw [Criterion.residents, List.map_append, Test.map_residents around home test,
      criteria_map_residents around home children, Criterion.occurrences]
termination_by structural c => c

theorem criteria_map_residents (around : List Block) (home : Block) : ∀ cs : List Criterion,
    (criteriaResidents around home cs).map Resident.occurrence =
      criteriaOccurrences (around.flatMap Block.aliases ++ home.aliases) cs
  | [] => rfl
  | c :: cs => by
    rw [criteriaResidents, List.map_append, Criterion.map_residents around home c,
      criteria_map_residents around home cs, criteriaOccurrences]
termination_by structural cs => cs

theorem Test.map_residents (around : List Block) (home : Block) : ∀ t : Test,
    (t.residents around home).map Resident.occurrence =
      t.occurrences (around.flatMap Block.aliases ++ home.aliases)
  | .column column ⟨_, operand, _, _⟩ => by
    rw [Test.residents, operand_map_residents around home column operand, Test.occurrences]
  | .existence query _ => by
    rw [Test.residents, Select.map_residents (around ++ [home]) query, flatMap_aliases_snoc,
      Test.occurrences]
  | .group => rfl
termination_by structural t => t

theorem operand_map_residents (around : List Block) (home : Block) (left : Column) :
    ∀ o : Operand Select Value, (operandResidents around home left o).map Resident.occurrence =
      operandOccurrences (around.flatMap Block.aliases ++ home.aliases) left o
  | .noValue true => rfl
  | .noValue false => rfl
  | .single none => rfl
  | .single (some _) => rfl
  | .pair none => rfl
  | .pair (some _) => rfl
  | .list [] => rfl
  | .list (_ :: _) => rfl
  | .column none => rfl
  | .column (some _) => rfl
  | .select none => rfl
  | .select (some query) => by
    rw [operandResidents, List.map_cons, Select.map_residents (around ++ [home]) query,
      flatMap_aliases_snoc, operandOccurrences]
    rfl
termination_by structural o => o

theorem Block.map_residents (around : List Block) : ∀ b : Block,
    (b.residents around).map Resident.occurrence = b.occurrences (around.flatMap Block.aliases)
  | ⟨union, distinct, items, table, asName, joins, criteria, groupBy⟩ => by
    have clause := criteria_map_residents around
      ⟨union, distinct, items, table, asName, joins, criteria, groupBy⟩ criteria
    rw [Block.residents, List.map_append, List.map_append, clause, List.map_map, List.map_map,
      Block.occurrences]
    rfl
termination_by structural b => b

theorem blocks_map_residents (around : List Block) : ∀ bs : List Block,
    (blocksResidents around bs).map Resident.occurrence =
      blocksOccurrences (around.flatMap Block.aliases) bs
  | [] => rfl
  | b :: bs => by
    rw [blocksResidents, List.map_append, Block.map_residents around b,
      blocks_map_residents around bs, blocksOccurrences]
termination_by structural bs => bs

theorem Select.map_residents (around : List Block) : ∀ s : Select,
    (s.residents around).map Resident.occurrence = s.occurrences (around.flatMap Block.aliases)
  | ⟨blocks, _, _⟩ => by
    rw [Select.residents, blocks_map_residents around blocks, Select.occurrences]
termination_by structural s => s

end

namespace Rendering

/-- A block is rendered with its columns in the places of its sketch, those of its sub-selects
among them. Each column that is one of the own tables of the block that writes it is written as that
block's own exactly if the block gives the table an alias, or nothing around it does. -/
theorem own_columns_iff (config : Config) (outer : Scope) (b : Block) :
    Renders config ((b.sketch .empty).template outer) (renderBlock config outer b) ∧
      (b.sketch .empty).columnTexts outer = (b.residents []).map (Resident.text outer) ∧
      ∀ r ∈ b.residents [], r.AtHome →
        (r.OwnText (r.text outer) ↔ r.Aliased ∨ ¬ r.AliasedAround outer) := by
  refine ⟨renderBlock_renders_sketch config outer b, ?_, fun r _ _ => r.ownText_iff outer⟩
  have occurrences := Block.map_residents [] b
  rw [Sketch.columnTexts_eq, Block.occurrences_sketch]
  change List.map _ (b.occurrences []) = _
  rw [List.flatMap_nil] at occurrences
  rw [← occurrences, List.map_map]
  rfl

/-- The ids of persons, from a table that may have an alias. -/
def personBlock (asName : Option String) (criteria : List Criterion) : Block :=
  ⟨none, false, [⟨.column ⟨⟨0, "person"⟩, "id", .integer, none, none⟩, none⟩], ⟨0, "person"⟩,
    asName, [], criteria, []⟩

/-- The age of persons. -/
def ageColumn : Column := ⟨⟨0, "person"⟩, "age", .integer, none, none⟩

/-- Persons as old as a town, which is no table of the block. -/
def townAgeBlock : Block :=
  personBlock none
    [.ofCondition ageColumn (.column .equalTo ⟨⟨1, "town"⟩, "age", .integer, none, none⟩)]

/-- Around the block an alias for the town is meant for the last of its columns; one for persons
takes the others along. -/
theorem townAgeBlock_own :
    (renderBlock {} ⟨[[(⟨1, "town"⟩, "t")]]⟩ townAgeBlock).run {} =
        .ok (.ofText "select id from person where age = t.age", {}) ∧
      (renderBlock {} ⟨[[(⟨1, "town"⟩, "t")], [(⟨0, "person"⟩, "p")]]⟩ townAgeBlock).run {} =
        .ok (.ofText "select p.id from person where p.age = t.age", {}) ∧
      ∃ r ∈ townAgeBlock.residents [], r.AtHome ∧ r.column = ageColumn ∧
        r.OwnText (r.text ⟨[[(⟨1, "town"⟩, "t")]]⟩) ∧
        ¬ r.OwnText (r.text ⟨[[(⟨1, "town"⟩, "t")], [(⟨0, "person"⟩, "p")]]⟩) := by
  have mem : ⟨[], townAgeBlock, ageColumn⟩ ∈ townAgeBlock.residents [] := .tail _ (.head _)
  have home : Resident.AtHome ⟨[], townAgeBlock, ageColumn⟩ := ⟨_, .head _, rfl⟩
  have unaliased : ¬ Resident.Aliased ⟨[], townAgeBlock, ageColumn⟩ := by
    rintro ⟨a, ⟨-, given⟩ | ⟨j, joined, -⟩⟩
    · cases given
    · cases joined
  refine ⟨rfl, rfl, _, mem, home, rfl, ?_, ?_⟩
  · refine ((own_columns_iff {} ⟨[[(⟨1, "town"⟩, "t")]]⟩ _).2.2 _ mem home).mpr (.inr ?_)
    rintro ⟨a, ⟨level, outside, entry, given, same, -⟩ | ⟨b, enclosing, -⟩⟩
    · rw [List.mem_singleton] at outside
      subst outside
      rw [List.mem_singleton] at given
      subst given
      cases same
    · cases enclosing
  · refine mt ((own_columns_iff {} _ _).2.2 _ mem home).mp ?_
    rintro (aliased | free)
    · exact unaliased aliased
    · exact free ⟨"p", .inl ⟨_, .tail _ (.head _), _, .head _, rfl, rfl⟩⟩

/-- The ids of persons without an age, from a table without an alias. -/
def agelessBlock : Block := personBlock none [.ofCondition ageColumn .isNull]

/-- A select of persons asks for rows of the same table by a select that gives it no alias. The
columns inside are written as those of the row outside. -/
theorem nested_agelessBlock_captured :
    agelessBlock.asName = none ∧ agelessBlock.joins = [] ∧
      (renderStatement {} .empty (.select ⟨[personBlock (some "p")
          [.existing ⟨[agelessBlock], [], none⟩]], [], none⟩)).run {} =
        .ok (.ofText ("select p.id from person p where exists " ++
          "(select p.id from person where p.age is null)"), {}) :=
  ⟨rfl, rfl, rfl⟩

end Rendering

end BoundSql
