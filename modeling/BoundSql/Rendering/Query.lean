import BoundSql.Rendering.Basic

/-!
# Rendering queries

The text and parameters of selects and of `where` clauses. A criterion whose own test renders
nothing lets its first rendered child stand in its place; where nothing renders, at any depth,
nothing is written and nothing is bound.

`renderCriterion` renders a node and all below it before it puts them together, so that the numbers
of the values follow the text.
-/

namespace BoundSql

/-- A rendered criterion, and the connector that joins it to those before it. -/
structure RenderedCriterion where
  fragment : Fragment
  connector : Option Connector

namespace RenderedCriterion

/-- The criterion behind another one, joined by `and` if it has no connector. -/
def joined (r : RenderedCriterion) : Fragment :=
  r.fragment.after ((r.connector.getD .and).keyword ++ " ")

end RenderedCriterion

/-- A table with its alias. -/
def tableText (table : Table) (asName : Option String) : String :=
  match asName with
  | some a => table.name ++ " " ++ a
  | none => table.name

namespace Join

/-- A criterion of a join behind the joined table. -/
def criterionText (scope : Scope) (c : JoinCriterion) : String :=
  " " ++ (match c.connector with | some k => k.keyword | none => "on") ++ " " ++
    c.left.qualified scope ++ " = " ++ c.right.qualified scope

def render (j : Join) (scope : Scope) : String :=
  j.kind.keyword ++ " " ++ tableText j.table j.asName ++
    String.join (j.criteria.map (criterionText scope))

end Join

namespace Rendering

/-- The number a paging value is bound as; it stays within 64 bits. -/
def pagingValue (n : Nat) : Value := .int (Int64.ofNat (min n 0x7fffffffffffffff))

/-- The paging clause. Its values belong to no column. -/
def renderPaging (config : Config) : Paging → Rendering Fragment
  | .limit limit offset => do
    let (l, parameters) ← bindValue config none (pagingValue limit) .empty
    match offset with
    | none => return ⟨"limit " ++ l, parameters⟩
    | some offset =>
      let (o, parameters) ← bindValue config none (pagingValue offset) parameters
      return ⟨"limit " ++ l ++ " offset " ++ o, parameters⟩
  | .fetch none none => return .ofText ""
  | .fetch (some offset) none => do
    let (o, parameters) ← bindValue config none (pagingValue offset) .empty
    return ⟨"offset " ++ o ++ " rows", parameters⟩
  | .fetch none (some first) => do
    let (f, parameters) ← bindValue config none (pagingValue first) .empty
    return ⟨"fetch first " ++ f ++ " rows only", parameters⟩
  | .fetch (some offset) (some first) => do
    let (o, parameters) ← bindValue config none (pagingValue offset) .empty
    let (f, parameters) ← bindValue config none (pagingValue first) parameters
    return ⟨"offset " ++ o ++ " rows fetch first " ++ f ++ " rows only", parameters⟩

/-- Reports that a condition was left out because its list is empty. -/
def reportElided (column : Column) (onEmptyList : Option String) : Rendering Unit := do
  if let some label := onEmptyList then report (.emptyList label)
  report (.elided column.table.name column.name)

/-- The left side of a condition. -/
def leftSide (scope : Scope) (column : Column) (upper : Bool) : String :=
  if upper then "upper(" ++ column.qualified scope ++ ")" else column.qualified scope

/-- A rendered test with the rendered criteria below it. What comes first stands without a
connector, and parentheses are written around more than one. -/
def assemble (own : Option Fragment) (children : List RenderedCriterion) :
    Except Collision (Option Fragment) :=
  match own, children with
  | none, [] => return none
  | some fragment, rest => do
    return some (← Collector.ofList (fragment :: rest.map RenderedCriterion.joined)).grouped
  | none, first :: rest => do
    return some (← Collector.ofList (first.fragment :: rest.map RenderedCriterion.joined)).grouped

/-- The head of a select, up to its joins. -/
def headTexts (scope : Scope) (distinct : Bool) (items : List SelectItem) (table : Table)
    (asName : Option String) (joins : List Join) : List String :=
  ("select " ++ (if distinct then "distinct " else "") ++
      String.intercalate ", " (items.map fun item => item.render scope)) ::
    ("from " ++ tableText table asName) :: joins.map fun j => j.render scope

/-- The `group by` clause, if there is one. -/
def groupByTexts (scope : Scope) (groupBy : List Expression) : List String :=
  if groupBy.isEmpty then []
  else ["group by " ++ String.intercalate ", " (groupBy.map fun e => e.render scope)]

/-- The `order by` clause, if there is one. -/
def orderByTexts (orderBy : List SortSpec) : List String :=
  if orderBy.isEmpty then []
  else ["order by " ++ String.intercalate ", " (orderBy.map SortSpec.render)]

mutual

/-- A criterion with all below it, unless nothing of it renders. -/
def renderCriterion (config : Config) (scope : Scope) :
    Criterion → Rendering (Option RenderedCriterion)
  | ⟨connector, test, children⟩ => do
    let own ← renderTest config scope test
    let rendered ← renderChildren config scope children
    match ← assemble own rendered with
    | none => return none
    | some fragment => return some ⟨fragment, connector⟩

/-- The criteria below a node that render. -/
def renderChildren (config : Config) (scope : Scope) :
    List Criterion → Rendering (List RenderedCriterion)
  | [] => return []
  | c :: cs => do
    let first ← renderCriterion config scope c
    let rest ← renderChildren config scope cs
    match first with
    | none => return rest
    | some r => return r :: rest

/-- What a node tests itself. -/
def renderTest (config : Config) (scope : Scope) : Test → Rendering (Option Fragment)
  | .column column ⟨operator, operand, upper, onEmptyList⟩ =>
    renderOperand config scope column (leftSide scope column upper ++ " " ++ operator.keyword)
      onEmptyList operand
  | .existence query negated => do
    let sub ← renderSelect config scope query
    let keyword := if negated then "not exists" else "exists"
    return some ⟨keyword ++ " (" ++ sub.text ++ ")", sub.parameters⟩
  | .group => return none

/-- A condition whose left side and operator are written already, unless its gate is closed. -/
def renderOperand (config : Config) (scope : Scope) (column : Column) (left : String)
    (onEmptyList : Option String) : Operand Select Value → Rendering (Option Fragment)
  | .noValue true => return some (.ofText left)
  | .noValue false => return none
  | .single none => return none
  | .single (some v) => do
    let (p, parameters) ← bindValue config (some column) v .empty
    return some ⟨left ++ " " ++ p, parameters⟩
  | .pair none => return none
  | .pair (some (a, b)) => do
    let (p, parameters) ← bindValue config (some column) a .empty
    let (q, parameters) ← bindValue config (some column) b parameters
    return some ⟨left ++ " " ++ p ++ " and " ++ q, parameters⟩
  | .list [] => do
    reportElided column onEmptyList
    return none
  | .list (v :: vs) => do
    let (ps, parameters) ← bindValues config (some column) (v :: vs) .empty
    return some ⟨left ++ " (" ++ String.intercalate "," ps ++ ")", parameters⟩
  | .column none => return none
  | .column (some other) => return some (.ofText (left ++ " " ++ other.qualified scope))
  | .select none => return none
  | .select (some query) => do
    let sub ← renderSelect config scope query
    return some ⟨left ++ " (" ++ sub.text ++ ")", sub.parameters⟩

/-- The criteria of a clause behind those already collected, each collected before the next. -/
def renderClause (config : Config) (scope : Scope) (collector : Collector) :
    List Criterion → Rendering Collector
  | [] => return collector
  | c :: cs => do
    match ← renderCriterion config scope c with
    | none => renderClause config scope collector cs
    | some r =>
      let fragment := if collector.isEmpty then r.fragment else r.joined
      renderClause config scope (← collector.add fragment) cs

/-- The blocks of a select behind those already collected, each collected before the next. -/
def renderBlocks (config : Config) (scope : Scope) (collector : Collector) :
    List Block → Rendering Collector
  | [] => return collector
  | b :: bs => do
    let fragment ← renderBlock config scope b
    let fragment := match b.union with
      | some u => fragment.after (u.keyword ++ " ")
      | none => fragment
    renderBlocks config scope (← collector.add fragment) bs

/-- One block, without the word that joins it to those before it. -/
def renderBlock (config : Config) (scope : Scope) : Block → Rendering Fragment
  | ⟨_, distinct, items, table, asName, joins, criteria, groupBy⟩ => do
    let inner := scope.child (aliasesOf table asName joins)
    let head := headTexts inner distinct items table asName joins
    let clause ← renderClause config inner .empty criteria
    let middle := if clause.isEmpty then [] else ["where " ++ (clause.join " ").text]
    return ⟨String.intercalate " " (head ++ middle ++ groupByTexts inner groupBy),
      clause.parameters⟩

def renderSelect (config : Config) (scope : Scope) : Select → Rendering Fragment
  | ⟨blocks, orderBy, paging⟩ => do
    let collector ← renderBlocks config scope .empty blocks
    let collector ← collector.addAll ((orderByTexts orderBy).map Fragment.ofText)
    match paging with
    | none => return collector.join " "
    | some p =>
      let fragment ← renderPaging config p
      return (← collector.add fragment).join " "

end

/-- The `where` clause of criteria, unless none of them renders. -/
def renderWhere (config : Config) (scope : Scope) (criteria : List Criterion) :
    Rendering (Option Fragment) := do
  let clause ← renderClause config scope .empty criteria
  if clause.isEmpty then return none
  else return some ((clause.join " ").after "where ")

end Rendering

end BoundSql
