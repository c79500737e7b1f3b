import BoundSql.Proofs.StatementTemplate
import BoundSql.Proofs.WhereClause

/-!
# Sketches of statements

A template knows the places of the values in a text. A sketch also knows those of the columns and of
the string constants: it depends on the statement alone, and tells apart the words of the language,
the texts a statement brings along, the names it refers to, the contents of its string literals, its
columns, and its values. A column stands in it with the aliases that are given around it inside the
statement; those given outside are put in last. The sketch of a where clause is the elided tree of
its criteria, with the sketch of what a criterion tests itself for an atom.
-/

namespace BoundSql

open Rendering

/-- The levels of a scope inside those of another one. -/
def Scope.within (inner outer : Scope) : Scope := ⟨inner.levels ++ outer.levels⟩

/-- A part of a sketch. -/
inductive Mark where
  /-- A word of the language. -/
  | word (s : String)
  /-- A name, or another text that a statement brings along and that is written as it is. -/
  | verbatim (s : String)
  /-- The name of a function or an aggregate, the sign of an operator, or a name sorted by. -/
  | reference (s : String)
  | literal (content : String)
  /-- A column, with the aliases given around it inside of what is sketched. -/
  | column (inner : Scope) (c : Column)
  | hole (h : Hole)

/-- The part of a template that a mark stands for. -/
def Mark.piece (outer : Scope) : Mark → Piece
  | .word s => .text s
  | .verbatim s => .text s
  | .reference s => .text s
  | .literal content => .text (Text.literal content)
  | .column inner c => .text (c.qualified (inner.within outer))
  | .hole h => .hole h

/-- A text whose names, literals, columns and values are told apart. -/
abbrev Sketch := List Mark

namespace Sketch

/-- The template of a sketch under the aliases given outside. -/
def template (outer : Scope) (s : Sketch) : Template := s.map (Mark.piece outer)

def join (separator : String) (parts : List Sketch) : Sketch :=
  List.intercalate [.word separator] parts

/-- The parts with the sign of an operator between them. -/
def joinBySign (sign : String) (parts : List Sketch) : Sketch :=
  List.intercalate [.word " ", .reference sign, .word " "] parts

def between (opening : String) (s : Sketch) (closing : String) : Sketch :=
  .word opening :: (s ++ [.word closing])

end Sketch

open Sketch

/-! ## The sketch of a select -/

namespace Expression

mutual

def sketch (inner : Scope) : Expression → Sketch
  | .column c => [.column inner c]
  | .constant text => [.verbatim text]
  | .stringConstant text => [.literal text]
  | .function name argument => .reference name :: between "(" (sketch inner argument) ")"
  | .substring argument offset length =>
    between "substring(" (sketch inner argument)
      (", " ++ toString offset ++ ", " ++ toString length ++ ")")
  | .aggregate name none _ => [.reference name, .word "(*)"]
  | .aggregate name (some argument) distinct =>
    .reference name ::
      between (if distinct then "(distinct " else "(") (sketch inner argument) ")"
  | .operator sign operands => between "(" (joinBySign sign (sketchAll inner operands)) ")"

def sketchAll (inner : Scope) : List Expression → List Sketch
  | [] => []
  | e :: es => sketch inner e :: sketchAll inner es

end

end Expression

def SelectItem.sketch (inner : Scope) (item : SelectItem) : Sketch :=
  item.expression.sketch inner ++
    match item.asName with
    | some a => [.word " as ", .verbatim a]
    | none => []

def tableSketch (table : Table) (asName : Option String) : Sketch :=
  .verbatim table.name ::
    match asName with
    | some a => [.word " ", .verbatim a]
    | none => []

def JoinCriterion.sketch (inner : Scope) (c : JoinCriterion) : Sketch :=
  [.word (" " ++ (match c.connector with | some k => k.keyword | none => "on") ++ " "),
    .column inner c.left, .word " = ", .column inner c.right]

def Join.sketch (inner : Scope) (j : Join) : Sketch :=
  .word (j.kind.keyword ++ " ") ::
    (tableSketch j.table j.asName ++ j.criteria.flatMap (JoinCriterion.sketch inner))

/-- The head of a select, up to its joins. -/
def headSketches (inner : Scope) (distinct : Bool) (items : List SelectItem) (table : Table)
    (asName : Option String) (joins : List Join) : List Sketch :=
  (.word ("select " ++ if distinct then "distinct " else "") ::
      join ", " (items.map (SelectItem.sketch inner))) ::
    (.word "from " :: tableSketch table asName) :: joins.map (Join.sketch inner)

def groupBySketches (inner : Scope) (groupBy : List Expression) : List Sketch :=
  if groupBy.isEmpty then []
  else [.word "group by " :: join ", " (groupBy.map (Expression.sketch inner))]

def SortSpec.sketch (s : SortSpec) : Sketch :=
  .reference s.name :: if s.descending then [.word " desc"] else []

def orderBySketches (orderBy : List SortSpec) : List Sketch :=
  if orderBy.isEmpty then [] else [.word "order by " :: join ", " (orderBy.map SortSpec.sketch)]

/-- A part of a template that has no names. -/
def Piece.mark : Piece → Mark
  | .text s => .word s
  | .hole h => .hole h

def Paging.sketch (p : Paging) : Sketch := p.template.map Piece.mark

/-- The left side and the operator of a condition. -/
def leftSketch (inner : Scope) (column : Column) (upper : Bool) (op : Operator) : Sketch :=
  (if upper then between "upper(" [.column inner column] ")" else [.column inner column]) ++
    [.word (" " ++ op.keyword)]

def Token.sketch : Token Sketch → Sketch
  | .atom s => s
  | .opening => [.word "("]
  | .closing => [.word ")"]
  | .connector k => [.word (" " ++ k.keyword ++ " ")]

def tokensSketch (tokens : List (Token Sketch)) : Sketch := tokens.flatMap Token.sketch

theorem tokensSketch_append (ts us : List (Token Sketch)) :
    tokensSketch (ts ++ us) = tokensSketch ts ++ tokensSketch us :=
  List.flatMap_append

theorem tokensSketch_cons (t : Token Sketch) (ts : List (Token Sketch)) :
    tokensSketch (t :: ts) = t.sketch ++ tokensSketch ts :=
  List.flatMap_cons

/-- The where clause of outlined criteria, unless nothing of them renders. -/
def whereSketch (outlines : List (Outline Sketch)) : Option Sketch :=
  (Clause.elided outlines).map fun clause => .word "where " :: tokensSketch clause.tokens

def unionSketch (union : Option UnionKind) : Sketch :=
  match union with
  | some u => [.word (u.keyword ++ " ")]
  | none => []

mutual

/-- The criterion with the sketch of its own test. -/
def Criterion.outline (inner : Scope) : Criterion → Outline Sketch
  | ⟨connector, test, children⟩ =>
    ⟨connector, test.sketch inner, criteriaOutlines inner children⟩

def criteriaOutlines (inner : Scope) : List Criterion → List (Outline Sketch)
  | [] => []
  | c :: cs => c.outline inner :: criteriaOutlines inner cs

def Test.sketch (inner : Scope) : Test → Option Sketch
  | .column column ⟨op, operand, upper, _⟩ =>
    operandSketch inner column (leftSketch inner column upper op) operand
  | .existence query negated =>
    some (between ((if negated then "not exists" else "exists") ++ " (") (query.sketch inner) ")")
  | .group => none

/-- A condition behind its left side and operator, unless its gate is closed. -/
def operandSketch (inner : Scope) (column : Column) (left : Sketch) :
    Operand Select Value → Option Sketch
  | .noValue true => some left
  | .noValue false => none
  | .single none => none
  | .single (some v) => some (left ++ [.word " ", .hole ⟨some column, v⟩])
  | .pair none => none
  | .pair (some (a, b)) =>
    some (left ++ [.word " ", .hole ⟨some column, a⟩, .word " and ", .hole ⟨some column, b⟩])
  | .list [] => none
  | .list (v :: vs) =>
    some (left ++ between " (" (join "," ((v :: vs).map fun v => [.hole ⟨some column, v⟩])) ")")
  | .column none => none
  | .column (some other) => some (left ++ [.word " ", .column inner other])
  | .select none => none
  | .select (some query) => some (left ++ between " (" (query.sketch inner) ")")

def Block.sketch (inner : Scope) : Block → Sketch
  | ⟨_, distinct, items, table, asName, joins, criteria, groupBy⟩ =>
    let own := inner.child (aliasesOf table asName joins)
    join " " (headSketches own distinct items table asName joins ++
      (whereSketch (criteriaOutlines own criteria)).toList ++ groupBySketches own groupBy)

def blocksSketches (inner : Scope) : List Block → List Sketch
  | [] => []
  | b :: bs => (unionSketch b.union ++ b.sketch inner) :: blocksSketches inner bs

def Select.sketch (inner : Scope) : Select → Sketch
  | ⟨blocks, orderBy, paging⟩ =>
    join " " (blocksSketches inner blocks ++ orderBySketches orderBy ++
      paging.toList.map Paging.sketch)

end

/-! ## The sketch of a statement -/

def assignedSketch (column : Column) : Assigned → Sketch
  | .null => [.word "null"]
  | .constant text => [.verbatim text]
  | .stringConstant text => [.literal text]
  | .value v => [.hole ⟨some column, v⟩]
  | .column other => [.column .empty other]

def columnListSketch (columns : List Column) : Sketch :=
  join ", " (columns.map fun c => [.verbatim c.name])

def insertHeadSketch (table : Table) (columns : List Column) : Sketch :=
  .word "insert into " :: .verbatim table.name :: between " (" (columnListSketch columns) ") "

def rowSketch (columns : List Column) (row : List Assigned) : Sketch :=
  between "(" (join ", " (List.zipWith assignedSketch columns row)) ")"

def returningSketch (columns : List Column) : Sketch :=
  if columns.isEmpty then [] else .word " returning " :: columnListSketch columns

def Assignment.sketch (a : Assignment) : Sketch :=
  .verbatim a.column.name :: .word " = " :: assignedSketch a.column a.value

/-- The sketch of a statement under no aliases but its own. -/
def Statement.sketch : Statement → Sketch
  | .select s => s.sketch .empty
  | .insert i =>
    insertHeadSketch i.table (i.assignments.map Assignment.column) ++
      between "values (" (join ", " (i.assignments.map fun a => assignedSketch a.column a.value))
        ")"
  | .insertMultiple i =>
    insertHeadSketch i.table i.columns ++
      .word "values " :: (join ", " (i.rows.map (rowSketch i.columns)) ++
        returningSketch i.returning)
  | .update u =>
    join " " ((.word "update " :: .verbatim u.table.name :: .word " set " ::
      join ", " (u.assignments.map Assignment.sketch)) ::
        (whereSketch (criteriaOutlines .empty u.criteria)).toList)
  | .delete d =>
    join " " ([.word "delete from ", .verbatim d.table.name] ::
      (whereSketch (criteriaOutlines .empty d.criteria)).toList)

end BoundSql
