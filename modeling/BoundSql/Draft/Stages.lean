import BoundSql.Draft.Select

/-!
# The stages of writing a select

Not every call may follow every other while a select is written: a join must say at once what it
joins on, a where clause comes behind the joins and a grouping behind both, and behind a union comes
the select list of the next block. `SelectStage.call?` is one call, unless the stage does not take
it, and `SelectStage.build?` ends the writing.
-/

namespace BoundSql

inductive SelectCall where
  | select (items : List SelectItem) (distinct : Bool)
  | source (table : Table) (asName : Option String)
  | join (kind : JoinKind) (table : Table) (asName : Option String)
  | on (left right : Column)
  | andOn (left right : Column)
  /-- The first criterion of the where clause. -/
  | meet (c : Criterion)
  | meetAlso (connector : Connector) (c : Criterion)
  | groupBy (items : List SelectItem)
  | union (kind : UnionKind)
  | orderBy (sorts : List SortSpec)
  | limit (n : Nat)
  | offset (n : Nat)
  | fetchFirst (n : Nat)
  | rowsOnly

/-- What is written already, and by it what may be written next. -/
inductive SelectStage where
  | unopened
  /-- A select list without its table; before it the blocks and the union it follows, if any. -/
  | listed (before : Option (SelectDraft × UnionKind)) (items : List SelectItem) (distinct : Bool)
  | sourced (d : SelectDraft)
  /-- A join that does not say yet what it joins on. -/
  | joining (d : SelectDraft) (kind : JoinKind) (table : Table) (asName : Option String)
  | joined (d : SelectDraft)
  | meeting (d : SelectDraft) (clause : WhereDraft)
  | grouped (d : SelectDraft)
  | uniting (d : SelectDraft) (kind : UnionKind)
  | ending (e : SelectEnding)
  | limiting (e : SelectEnding) (limit : Nat)
  | skipping (e : SelectEnding) (offset : Nat)
  | fetching (e : SelectEnding) (offset : Option Nat) (first : Nat)
  | paged (e : SelectEnding) (p : Paging)

namespace SelectStage

/-- The select at the stages that take joins and a where clause. -/
def open? : SelectStage → Option SelectDraft
  | .sourced d => some d
  | .joined d => some d
  | _ => none

/-- The select at the stages that take a grouping, its where clause put in. -/
def ungrouped? : SelectStage → Option SelectDraft
  | .meeting d clause => some (d.meeting clause)
  | s => s.open?

/-- The select at the stages at which its last block may be finished. -/
def held? : SelectStage → Option SelectDraft
  | .grouped d => some d
  | s => s.ungrouped?

/-- The finished blocks and their order, at the stages that take an order or paging. An order may go
on here, while the functions that write a select give it whole. -/
def ending? : SelectStage → Option SelectEnding
  | .ending e => some e
  | s => s.held?.map SelectDraft.finish

def call? (s : SelectStage) : SelectCall → Option SelectStage
  | .select items distinct =>
    match s with
    | .unopened => some (.listed none items distinct)
    | .uniting d kind => some (.listed (some (d, kind)) items distinct)
    | _ => none
  | .source table asName =>
    match s with
    | .listed none items distinct => some (.sourced (.select items table asName distinct))
    | .listed (some (d, kind)) items distinct =>
      some (.sourced (d.union kind items table asName distinct))
    | _ => none
  | .join kind table asName => s.open?.map fun d => .joining d kind table asName
  | .on left right =>
    match s with
    | .joining d kind table asName => some (.joined (d.join kind table asName left right))
    | _ => none
  | .andOn left right =>
    match s with
    | .joined d => some (.joined (d.andOn left right))
    | _ => none
  | .meet c => s.open?.map fun d => .meeting d (.startingWith c)
  | .meetAlso connector c =>
    match s with
    | .meeting d clause => some (.meeting d (clause.join connector c))
    | _ => none
  | .groupBy items => s.ungrouped?.map fun d => .grouped (d.groupBy items)
  | .union kind => s.held?.map fun d => .uniting d kind
  | .orderBy sorts => s.ending?.map fun e => .ending (e.orderBy sorts)
  | .limit n => s.ending?.map fun e => .limiting e n
  | .offset n =>
    match s with
    | .limiting e limit => some (.paged e (.limit limit (some n)))
    | _ => s.ending?.map fun e => .skipping e n
  | .fetchFirst n =>
    match s with
    | .skipping e offset => some (.fetching e (some offset) n)
    | _ => s.ending?.map fun e => .fetching e none n
  | .rowsOnly =>
    match s with
    | .fetching e offset first => some (.paged e (.fetch offset (some first)))
    | _ => none

def run? (s : SelectStage) (calls : List SelectCall) : Option SelectStage := calls.foldlM call? s

/-- The written select, at the stages at which it may be built. -/
def build? : SelectStage → Option (Except StatementError Select)
  | .limiting e limit => some (e.build (some (.limit limit none)))
  | .skipping e offset => some (e.build (some (.fetch (some offset) none)))
  | .paged e p => some (e.build (some p))
  | s => s.ending?.map fun e => e.build none

end SelectStage

end BoundSql
