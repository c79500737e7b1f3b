import BoundSql.Proofs.Erasure
import BoundSql.Proofs.KeyCollisions

/-!
# Unions and pages

A select is its blocks, each as it is rendered alone, with the words of the unions between them; an
order and then a page are only put behind them. The order binds nothing, and a page binds its counts
behind the values of all blocks, as numbers that fit 64 bits.
-/

namespace BoundSql

open Rendering Template

/-! ## The parts of a select -/

/-- The block as a select of its own. -/
def Block.alone (b : Block) : Select := ⟨[{ b with union := none }], [], none⟩

namespace Select

variable (s : Select)

/-- The select without its order and its page. -/
def blocksOnly : Select := ⟨s.blocks, [], none⟩

/-- The select without its page. -/
def unpaged : Select := { s with paging := none }

end Select

/-- The fragment is others in a row, each but the first behind the word of its union. -/
structure Fragment.Unites (f : Fragment) (kinds : List UnionKind) (first : Fragment)
    (others : List Fragment) : Prop where
  text : f.text = (kinds.zip others).foldl
    (fun text u => text ++ " " ++ u.1.keyword ++ " " ++ u.2.text) first.text
  length : others.length = kinds.length
  entries : f.parameters.entries =
    first.parameters.entries ++ others.flatMap fun g => g.parameters.entries

/-- A count of rows and the words around it. -/
structure PageClause where
  before : String
  count : Nat
  behind : String

namespace PageClause

variable (c : PageClause)

def hole : Hole := ⟨none, pagingValue c.count⟩

def text (config : Config) (n : Nat) : String :=
  c.before ++ c.hole.placeholder config n ++ c.behind

end PageClause

/-- What a page asks for, in the order in which it is written. -/
def Paging.clauses : Paging → List PageClause
  | .limit n offset => ⟨"limit ", n, ""⟩ :: offset.toList.map (⟨"offset ", ·, ""⟩)
  | .fetch offset first =>
    offset.toList.map (⟨"offset ", ·, " rows"⟩) ++
      first.toList.map (⟨"fetch first ", ·, " rows only"⟩)

/-- The fragment is the other one with a page behind it, whose counts are numbered from `start`
on. -/
structure Fragment.Pages (f unpaged : Fragment) (config : Config) (start : Nat) (p : Paging) :
    Prop where
  text : f.text = unpaged.text ++ " " ++
    String.intercalate " " (p.clauses.mapIdx fun i c => c.text config (start + i))
  entries : f.parameters.entries =
    unpaged.parameters.entries ++ entriesFrom config start (p.clauses.map PageClause.hole)

/-! ## Their templates -/

theorem intercalate_unions (kinds : List UnionKind) : ∀ (first : String) (others : List Fragment),
    String.intercalate " "
        (first :: List.zipWith (fun kind g => kind.keyword ++ " " ++ g.text) kinds others) =
      (kinds.zip others).foldl
        (fun text u => text ++ " " ++ u.1.keyword ++ " " ++ u.2.text) first := by
  induction kinds with
  | nil => exact fun first _ => String.intercalate_singleton
  | cons kind kinds ih =>
    rintro first (_ | ⟨g, others⟩)
    · exact String.intercalate_singleton
    · have behind : first ++ " " ++ kind.keyword ++ " " ++ g.text =
          first ++ " " ++ (kind.keyword ++ " " ++ g.text) := by
        simp only [String.append_assoc]
      rw [List.zip_cons_cons, List.foldl_cons, ← ih, behind, String.intercalate_cons_append,
        List.zipWith_cons_cons, String.intercalate_cons_cons]

theorem fillAll_blockTemplates (config : Config) (scope : Scope) :
    ∀ {bs : List Block} {kinds : List UnionKind} (n : Nat),
      bs.map Block.union = kinds.map some →
        fillAll config n (blockTemplates scope bs) =
          List.zipWith (fun kind text => kind.keyword ++ " " ++ text) kinds
            (fillAll config n (bs.map (Block.template scope)))
  | [], [], _, _ => rfl
  | b :: bs, kind :: kinds, n, unions => by
    obtain ⟨own, rest⟩ := List.cons.inj unions
    have later := fillAll_blockTemplates config scope (n + (b.template scope).holes.length) rest
    rw [blockTemplates, List.map_cons, fillAll, fillAll, holes_unioned, later, own,
      List.zipWith_cons_cons]
    rfl
  | [], _ :: _, _, h => by cases h
  | _ :: _, [], _, h => by cases h

theorem holesOf_map_blockTemplate (scope : Scope) (bs : List Block) :
    holesOf (bs.map (Block.template scope)) = blocksHoles bs := by
  rw [← holes_blockTemplates scope, blockTemplates_eq_map]
  simp only [holesOf, List.flatMap_map, holes_unioned]

theorem Block.template_alone (b : Block) (scope : Scope) :
    b.alone.template scope = b.template scope := by
  have own : Block.template scope { b with union := none } = b.template scope := by
    obtain ⟨union, distinct, items, table, asName, joins, criteria, groupBy⟩ := b
    rw [Block.template, Block.template]
  simp [alone, Select.template, blockTemplates, unioned, orderByTexts, join, own]

namespace Paging

theorem holes_eq (p : Paging) : p.holes = p.clauses.map PageClause.hole := by
  rcases p with ⟨limit, _ | offset⟩ | ⟨_ | offset, _ | first⟩ <;> rfl

theorem fill_template (p : Paging) (config : Config) (n : Nat) :
    fill config n p.template =
      String.intercalate " " (p.clauses.mapIdx fun i c => c.text config (n + i)) := by
  have offsetBehind : " offset " = " " ++ "offset " := rfl
  have fetchBehind : " rows fetch first " = " rows" ++ (" " ++ "fetch first ") := rfl
  rcases p with ⟨limit, _ | offset⟩ | ⟨_ | offset, _ | first⟩ <;>
    simp only [template, clauses, PageClause.text, PageClause.hole, fill_text, fill_hole, fill_nil,
      ofText, offsetBehind, fetchBehind, Option.toList_none, Option.toList_some, List.map_nil,
      List.map_cons, List.nil_append, List.cons_append, List.mapIdx_cons, List.mapIdx_nil,
      String.intercalate_nil, String.intercalate_singleton, String.intercalate_cons_cons,
      String.append_empty, String.append_assoc, Nat.add_zero, Nat.zero_add]

end Paging

namespace Select

theorem holes_eq (s : Select) :
    s.holes = blocksHoles s.blocks ++ s.paging.toList.flatMap Paging.holes := by
  obtain ⟨blocks, orderBy, paging⟩ := s
  rw [holes]

theorem holes_blocksOnly (s : Select) : s.blocksOnly.holes = blocksHoles s.blocks := by
  rw [holes_eq]
  exact List.append_nil _

theorem holes_unpaged (s : Select) : s.unpaged.holes = blocksHoles s.blocks := by
  rw [holes_eq]
  exact List.append_nil _

theorem holes_paged {s : Select} {p : Paging} (paging : s.paging = some p) :
    s.holes = blocksHoles s.blocks ++ p.clauses.map PageClause.hole := by
  rw [holes_eq, paging, ← p.holes_eq]
  exact congrArg _ (List.append_nil _)

theorem fill_blocksOnly (s : Select) (config : Config) (scope : Scope) (n : Nat) :
    fill config n (s.blocksOnly.template scope) =
      String.intercalate " " (fillAll config n (blockTemplates scope s.blocks)) := by
  rw [blocksOnly, template, Option.toList_none, List.map_nil, List.append_nil, fill_join]
  exact congrArg (fun ts => String.intercalate " " (fillAll config n ts)) (List.append_nil _)

theorem fill_unpaged {s : Select} (nonempty : s.blocks ≠ []) (config : Config) (scope : Scope)
    (n : Nat) : fill config n (s.unpaged.template scope) =
      fill config n (s.blocksOnly.template scope) ++
        if s.orderBy.isEmpty then ""
        else " order by " ++ String.intercalate ", " (s.orderBy.map SortSpec.render) := by
  have templates : blockTemplates scope s.blocks ≠ [] := by
    simpa [blockTemplates_eq_map] using nonempty
  rw [unpaged, blocksOnly, template, template, Option.toList_none, List.map_nil, List.append_nil,
    List.append_nil]
  by_cases unsorted : s.orderBy.isEmpty
  · have none : orderByTexts s.orderBy = orderByTexts [] := by
      rw [List.isEmpty_iff.mp unsorted]
    rw [none, if_pos unsorted, String.append_empty]
  · have clause : (orderByTexts s.orderBy).map ofText =
        [ofText ("order by " ++ String.intercalate ", " (s.orderBy.map SortSpec.render))] := by
      rw [orderByTexts, if_neg unsorted, List.map_singleton]
    have empty : (orderByTexts []).map ofText = [] := rfl
    have opening : " order by " = " " ++ "order by " := rfl
    rw [clause, empty, List.append_nil, if_neg unsorted,
      fill_join_append config " " n templates (List.cons_ne_nil _ _), opening]
    simp only [join, List.intercalate_singleton, ofText, fill_text, fill_nil, String.append_empty,
      String.append_assoc]

theorem fill_paged {s : Select} (nonempty : s.blocks ≠ []) {p : Paging} (paging : s.paging = some p)
    (config : Config) (scope : Scope) (n : Nat) :
    fill config n (s.template scope) = fill config n (s.unpaged.template scope) ++ " " ++
      fill config (n + (blocksHoles s.blocks).length) p.template := by
  have templates : blockTemplates scope s.blocks ++ (orderByTexts s.orderBy).map ofText ≠ [] := by
    simp [blockTemplates_eq_map, nonempty]
  obtain ⟨blocks, orderBy, _⟩ := s
  cases paging
  rw [unpaged, template, template, Option.toList_none, List.map_nil, List.append_nil,
    Option.toList_some, List.map_singleton,
    fill_join_append config " " n templates (List.cons_ne_nil _ _), holesOf_append,
    holesOf_map_ofText, List.append_nil, holes_blockTemplates]
  exact congrArg _ (congrArg _ List.intercalate_singleton)

theorem renders (s : Select) (config : Config) (scope : Scope) {start : Progress}
    (distinct : (keysFrom config start.next s.holes).Nodup) :
    ∃ f stop, (renderSelect config scope s).run start = .ok (f, stop) ∧
      f.Fills config start.next (s.template scope) ∧ stop.next = start.next + s.holes.length := by
  have filling : Renders config (s.template scope) (renderSelect config scope s) :=
    renderSelect_renders scope s
  rw [← s.holes_template scope] at distinct ⊢
  exact filling.exists_ok distinct

end Select

/-! ## Rendered selects -/

namespace Select

variable {s : Select} {config : Config} {scope : Scope} {start mid : Progress}

/-- The blocks of the select, each alone. -/
def alone (s : Select) (scope : Scope) : List (Scope × Statement) :=
  s.blocks.map fun b => (scope, .select b.alone)

theorem map_template_alone (s : Select) (scope : Scope) :
    ((s.alone scope).map fun t => t.2.template t.1) = s.blocks.map (Block.template scope) := by
  rw [alone, List.map_map]
  exact List.map_congr_left fun b _ => b.template_alone scope

theorem allHoles_alone (s : Select) (scope : Scope) :
    allHoles (s.alone scope) = blocksHoles s.blocks := by
  rw [← holesOf_map_template, map_template_alone, holesOf_map_blockTemplate]

theorem unites_of_renderAll {kinds : List UnionKind} {fs : List Fragment} {f : Fragment}
    (unions : s.blocks.map Block.union = none :: kinds.map some)
    (run : (renderAll config (s.alone scope)).run start = .ok (fs, mid))
    (fills : f.Fills config start.next (s.blocksOnly.template scope)) :
    ∃ first others, fs = first :: others ∧ f.Unites kinds first others := by
  obtain ⟨each, -⟩ := renderAll_fills run
  rw [map_template_alone] at each
  obtain ⟨text, entries⟩ := fills
  rw [holes_template, holes_blocksOnly] at entries
  rw [fill_blocksOnly] at text
  obtain ⟨blocks, orderBy, paging⟩ := s
  obtain _ | ⟨b, bs⟩ := blocks
  · cases unions
  obtain _ | ⟨first, others⟩ := fs
  · exact each.elim
  -- the first block stands without a word, so the words are as many as the blocks behind it
  obtain ⟨own, rest⟩ := List.cons.inj unions
  have inRow := each.entries
  obtain ⟨firstFills, othersFill⟩ := each
  have later := fillAll_blockTemplates config scope
    (start.next + (b.template scope).holes.length) rest
  rw [← othersFill.texts, List.zipWith_map_right] at later
  refine ⟨first, others, rfl, ?_, ?_, ?_⟩
  · rw [text, blockTemplates, own, unioned, fillAll, later, ← firstFills.text, intercalate_unions]
  · have count := congrArg List.length othersFill.texts
    have followed := congrArg List.length rest
    rw [List.length_map, length_fillAll, List.length_map] at count
    rw [List.length_map, List.length_map] at followed
    exact count.trans followed
  · rw [holesOf_map_blockTemplate] at inRow
    rw [entries, ← inRow, List.flatMap_cons]

/-- Rendered alone, the blocks of a select bind what it binds before its page. -/
theorem renders_alone (scope : Scope)
    (distinct : (keysFrom config start.next (blocksHoles s.blocks)).Nodup) :
    ∃ fs stop, (renderAll config (s.alone scope)).run start = .ok (fs, stop) ∧
      stop.next = start.next + (blocksHoles s.blocks).length := by
  rw [← s.allHoles_alone scope] at distinct ⊢
  obtain ⟨fs, stop, run⟩ := renderAll_succeeds distinct
  exact ⟨fs, stop, run, (renderAll_ok run).2⟩

/-- An order binds nothing. -/
theorem parameters_of_sorted {n : Nat} {united sorted : Fragment}
    (blocks : united.Fills config n (s.blocksOnly.template scope))
    (rows : sorted.Fills config n (s.unpaged.template scope)) :
    sorted.parameters = united.parameters := by
  apply Parameters.ext
  rw [rows.entries, blocks.entries, holes_template, holes_template, holes_blocksOnly, holes_unpaged]

theorem pages_of_fills {n : Nat} {p : Paging} (nonempty : s.blocks ≠ [])
    (paging : s.paging = some p) {sorted paged : Fragment}
    (rows : sorted.Fills config n (s.unpaged.template scope))
    (fills : paged.Fills config n (s.template scope)) :
    paged.Pages sorted config (n + (blocksHoles s.blocks).length) p := by
  refine ⟨?_, ?_⟩
  · rw [fills.text, fill_paged nonempty paging, ← rows.text, p.fill_template]
  · rw [fills.entries, rows.entries, holes_template, holes_template, holes_paged paging,
      holes_unpaged, entriesFrom_append]

/-- A select has a first block, which is joined to nothing, and each later one follows a union. If
the keys of its values are distinct, it is rendered as its blocks are, each alone, one after the
other and in the scope of the select, with the words of the unions between them. An order is put
behind their text and changes no parameter, and a page is put behind both. The counts of a page are
bound as numbers that are cut off at the largest one of 64 bits, so none is negative and their order
is kept. -/
theorem rendered_block_by_block (s : Select) {kinds : List UnionKind}
    (unions : s.blocks.map Block.union = none :: kinds.map some) (config : Config) (scope : Scope)
    (start : Progress) (distinct : (keysFrom config start.next s.holes).Nodup) :
    (∃ first others mid, (renderAll config (s.alone scope)).run start = .ok (first :: others, mid) ∧
      ∃ united afterBlocks,
        (renderSelect config scope s.blocksOnly).run start = .ok (united, afterBlocks) ∧
        united.Unites kinds first others ∧ afterBlocks.next = mid.next ∧
      ∃ sorted afterOrder,
        (renderSelect config scope s.unpaged).run start = .ok (sorted, afterOrder) ∧
        sorted.text = united.text ++ (if s.orderBy.isEmpty then ""
          else " order by " ++ String.intercalate ", " (s.orderBy.map SortSpec.render)) ∧
        sorted.parameters = united.parameters ∧ afterOrder.next = mid.next ∧
      ∀ p, s.paging = some p → ∃ paged stop,
        (renderSelect config scope s).run start = .ok (paged, stop) ∧
        paged.Pages sorted config mid.next p ∧ stop.next = mid.next + p.clauses.length) ∧
    ∀ n m : Nat, ∃ k l : Int64, pagingValue n = .int k ∧ pagingValue m = .int l ∧
      k.toInt = min n 9223372036854775807 ∧ 0 ≤ k.toInt ∧ (n ≤ m → k.toInt ≤ l.toInt) := by
  refine ⟨?_, ?_⟩
  · have nonempty : s.blocks ≠ [] := by
      rintro none
      rw [none] at unions
      cases unions
    have before : (keysFrom config start.next (blocksHoles s.blocks)).Nodup := by
      rw [s.holes_eq, keysFrom_append] at distinct
      exact (List.nodup_append.mp distinct).1
    obtain ⟨fs, mid, runAlone, midway⟩ := renders_alone scope before
    obtain ⟨united, afterBlocks, runBlocks, blocks, nextBlocks⟩ :=
      s.blocksOnly.renders config scope (s.holes_blocksOnly ▸ before)
    obtain ⟨sorted, afterOrder, runOrder, rows, nextOrder⟩ :=
      s.unpaged.renders config scope (s.holes_unpaged ▸ before)
    rw [holes_blocksOnly, ← midway] at nextBlocks
    rw [holes_unpaged, ← midway] at nextOrder
    obtain ⟨first, others, rfl, unites⟩ := unites_of_renderAll unions runAlone blocks
    refine ⟨first, others, mid, runAlone, united, afterBlocks, runBlocks, unites, nextBlocks,
      sorted, afterOrder, runOrder, ?_, parameters_of_sorted blocks rows, nextOrder, ?_⟩
    · rw [rows.text, blocks.text, fill_unpaged nonempty]
    · intro p paging
      obtain ⟨paged, stop, run, fills, next⟩ := s.renders config scope distinct
      have pages := pages_of_fills nonempty paging rows fills
      rw [← midway] at pages
      refine ⟨paged, stop, run, pages, ?_⟩
      rw [next, holes_paged paging, List.length_append, List.length_map, midway, Nat.add_assoc]
  · intro n m
    obtain ⟨k, first, lower⟩ := pagingValue_toInt n
    obtain ⟨l, second, upper⟩ := pagingValue_toInt m
    refine ⟨k, l, first, second, ?_, ?_, ?_⟩ <;> omega

/-- The names of persons of one name, of those of one age and of all pets, sorted, without the first
seven of them. -/
def namedOrAged : Select :=
  let name : Column := ⟨⟨0, "person"⟩, "name", .text, none, none⟩
  let age : Column := ⟨⟨0, "person"⟩, "age", .integer, none, none⟩
  ⟨[⟨none, false, [⟨.column name, none⟩], ⟨0, "person"⟩, some "p", [],
      [.ofCondition name ⟨.equalTo, .single (some (.text "Ada")), false, none⟩], []⟩,
    ⟨some .unionAll, false, [⟨.column name, none⟩], ⟨0, "person"⟩, none, [],
      [.ofCondition age ⟨.equalTo, .single (some (.int 41)), false, none⟩], []⟩,
    ⟨some .union, false, [⟨.column name, none⟩], ⟨1, "pet"⟩, none, [], [], []⟩],
    [⟨"name", true⟩], some (.limit 18446744073709551615 (some 7))⟩

theorem namedOrAged_rendered : ∃ united paged afterBlocks stop,
    (renderSelect {} .empty namedOrAged.blocksOnly).run {} = .ok (united, afterBlocks) ∧
    (renderSelect {} .empty namedOrAged).run {} = .ok (paged, stop) ∧
    united.text = "select p.name from person p where p.name = $1 union all " ++
      "select name from person where age = $2 union select name from pet" ∧
    paged.text = united.text ++ " order by name desc" ++ " " ++ "limit $3 offset $4" ∧
    paged.parameters.entries = [("p1", .text "Ada"), ("p2", .int 41),
      ("p3", .int 9223372036854775807), ("p4", .int 7)] := by
  obtain ⟨⟨first, others, mid, runAlone, united, afterBlocks, runBlocks, unites, -, sorted, -, -,
    order, same, -, page⟩, -⟩ :=
      @rendered_block_by_block namedOrAged [.unionAll, .union] rfl {} .empty {} (by decide)
  obtain ⟨paged, stop, run, pages, -⟩ := page _ rfl
  have third : mid.next = 3 := (renderAll_ok runAlone).2
  cases runAlone
  refine ⟨united, paged, afterBlocks, stop, runBlocks, run, ?_, ?_, ?_⟩
  · rw [unites.text]
    rfl
  · rw [pages.text, order, third]
    rfl
  · rw [pages.entries, same, unites.entries, third]
    rfl

end Select

end BoundSql
