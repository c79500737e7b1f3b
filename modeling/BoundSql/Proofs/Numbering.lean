import BoundSql.Proofs.QueryNumbering

/-!
# Rendering numbers the values of a statement

`renderStatement_renders`: whatever the statement, what comes out is its template, filled from the
number at which the rendering starts. The counter is threaded through all parts, and no set of
parameters is dropped on the way, so the rendering fails exactly if two keys of the whole statement
are equal, wherever the two values stand.
-/

namespace BoundSql

open Template

namespace Rendering

variable {config : Config}

theorem renderWhere_renders (scope : Scope) (criteria : List Criterion) :
    RendersOption config (whereClause (criteriaTemplates scope criteria))
      (renderWhere config scope criteria) := by
  intro start
  have empty : Collector.empty.Fills config start [] := Collector.fills_empty
  have clause := renderClause_binds scope criteria empty
  rw [holes_whereClause, holes_criteriaTemplates]
  refine Binds.bind clause ?_
  intro c (hc : c.Fills config start (headed _))
  rw [whereClause]
  generalize criteriaTemplates scope criteria = parts at hc
  have isEmpty := hc.isEmpty
  rcases parts with _ | ⟨first, rest⟩
  · rw [isEmpty]
    exact Binds.pure Option.Rel.none
  · rw [isEmpty]
    exact Binds.pure (Option.Rel.some ((hc.join " ").after "where "))

theorem withWhere_renders {t : Template} (scope : Scope) (criteria : List Criterion)
    {m : Rendering Fragment} (hm : Renders config t m) :
    Renders config (join " " (t :: (whereClause (criteriaTemplates scope criteria)).toList))
      (do withWhere config scope (← m) criteria) := by
  intro start
  have clause : RendersOption config _ (renderWhere config scope criteria) :=
    renderWhere_renders scope criteria
  generalize whereClause (criteriaTemplates scope criteria) = u at clause
  rw [holes_join, holesOf_cons, List.length_append, ← Nat.add_assoc]
  refine Binds.bind ((hm start).append_right _) ?_
  intro f hf
  refine Binds.bind ((clause _).append_left _) ?_
  intro r hr
  cases hr with
  | none =>
    refine Binds.pure ?_
    simpa [join] using hf
  | some hr =>
    rename_i u g
    have both : FillEach config start [t, u] [f, g] := ⟨hf, hr, trivial⟩
    refine Binds.bind (Binds.lift (Collector.fills_empty.addAll both)) ?_
    intro c hc
    exact Binds.pure (hc.join " ")

theorem renderAssigned_renders (scope : Scope) (column : Column) : ∀ a : Assigned,
    Renders config (assignedTemplate scope column a) (renderAssigned config scope column a)
  | .null => renders_ofText "null"
  | .constant text => renders_ofText text
  | .stringConstant text => renders_ofText (Text.literal text)
  | .value v => bindFragment_renders (some column) v
  | .column other => renders_ofText (other.qualified scope)

/-- Templates between separators, each rendered and collected before the next. -/
theorem wrapped_renders {ι : Type} {t : ι → Template} {m : ι → Rendering Fragment} {l : List ι}
    (h : ∀ a ∈ l, Renders config (t a) (m a)) (opening closing : String) :
    Renders config (between opening (join ", " (l.map t)) closing)
      (do return (← collect .empty (l.map m)).wrapped ", " opening closing) := by
  intro start
  rw [holes_between, holes_join]
  have empty : Collector.empty.Fills config start [] := Collector.fills_empty
  refine Binds.bind (collect_binds t m l h empty) ?_
  intro c hc
  exact Binds.pure (hc.wrapped ", " opening closing)

theorem joined_renders {ι : Type} {t : ι → Template} {m : ι → Rendering Fragment} {l : List ι}
    (h : ∀ a ∈ l, Renders config (t a) (m a)) :
    Renders config (join ", " (l.map t))
      (do return (← collect .empty (l.map m)).join ", ") := by
  intro start
  rw [holes_join]
  have empty : Collector.empty.Fills config start [] := Collector.fills_empty
  refine Binds.bind (collect_binds t m l h empty) ?_
  intro c hc
  exact Binds.pure (hc.join ", ")

theorem renderInsert_renders (scope : Scope) (i : Insert) :
    Renders config ((Statement.insert i).template scope) (renderInsert config scope i) := by
  have values : ∀ a ∈ i.assignments, Renders config (assignedTemplate scope a.column a.value)
      (renderAssigned config scope a.column a.value) :=
    fun a _ => renderAssigned_renders scope a.column a.value
  have whole := (wrapped_renders values "values (" ")").after
    (insertHead i.table (i.assignments.map Assignment.column))
  simp only [bind_assoc, pure_bind] at whole
  exact whole

theorem renderRow_renders (scope : Scope) (columns : List Column) (row : List Assigned) :
    Renders config (rowTemplate scope columns row) (renderRow config scope columns row) := by
  have cells : ∀ p ∈ columns.zip row, Renders config (assignedTemplate scope p.1 p.2)
      (renderAssigned config scope p.1 p.2) :=
    fun p _ => renderAssigned_renders scope p.1 p.2
  have whole := wrapped_renders cells "(" ")"
  rw [List.map_zip_eq_zipWith, List.map_zip_eq_zipWith] at whole
  exact whole

theorem renderMultiInsert_renders (scope : Scope) (i : MultiInsert) :
    Renders config ((Statement.insertMultiple i).template scope)
      (renderMultiInsert config scope i) := by
  have rows : ∀ row ∈ i.rows, Renders config (rowTemplate scope i.columns row)
      (renderRow config scope i.columns row) :=
    fun row _ => renderRow_renders scope i.columns row
  have whole := (wrapped_renders rows "values " (returningText i.returning)).after
    (insertHead i.table i.columns)
  simp only [bind_assoc, pure_bind] at whole
  exact whole

theorem renderUpdate_renders (scope : Scope) (u : Update) :
    Renders config ((Statement.update u).template scope) (renderUpdate config scope u) := by
  have assignment : ∀ a ∈ u.assignments,
      Renders config (a.template scope) (renderAssignment config scope a) :=
    fun a _ => (renderAssigned_renders scope a.column a.value).after (a.column.name ++ " = ")
  have head := (joined_renders assignment).after ("update " ++ u.table.name ++ " set ")
  have whole := withWhere_renders scope u.criteria head
  simp only [bind_assoc, pure_bind] at whole
  exact whole

theorem renderDelete_renders (scope : Scope) (d : Delete) :
    Renders config ((Statement.delete d).template scope) (renderDelete config scope d) := by
  have head : Renders config _ _ := renders_ofText ("delete from " ++ d.table.name)
  have whole := withWhere_renders scope d.criteria head
  simp only [pure_bind] at whole
  exact whole

/-- Rendering a statement fills its template. -/
theorem renderStatement_renders (scope : Scope) : ∀ s : Statement,
    Renders config (s.template scope) (renderStatement config scope s)
  | .select s => renderSelect_renders scope s
  | .insert i => renderInsert_renders scope i
  | .insertMultiple i => renderMultiInsert_renders scope i
  | .update u => renderUpdate_renders scope u
  | .delete d => renderDelete_renders scope d

section Outcome

variable {t : Template} {m : Rendering Fragment} {start after : Progress} {f : Fragment}

theorem Renders.ok (h : Renders config t m) (run : m.run start = .ok (f, after)) :
    f.Fills config start.next t ∧ after.next = start.next + t.holes.length := by
  have outcome := h start.next start.events
  rw [run] at outcome
  exact ⟨outcome.2, outcome.1⟩

theorem Renders.error {c : Collision} (h : Renders config t m) (run : m.run start = .error c) :
    Clash config start.next t.holes := by
  have outcome := h start.next start.events
  rw [run] at outcome
  exact outcome

/-- What fills a template has distinct keys, so a clash is the only reason to fail and it always
is one. -/
theorem Renders.fails_iff (h : Renders config t m) :
    (∃ c, m.run start = .error c) ↔ Clash config start.next t.holes := by
  constructor
  · rintro ⟨c, run⟩
    exact h.error run
  · intro clash
    rcases run : m.run start with c | ⟨f, after⟩
    · exact ⟨c, rfl⟩
    · exact absurd (h.ok run).1.nodup clash

/-- With distinct keys there is an outcome, and it fills the template. -/
theorem Renders.exists_ok (h : Renders config t m)
    (distinct : (keysFrom config start.next t.holes).Nodup) :
    ∃ f after, m.run start = .ok (f, after) ∧ f.Fills config start.next t ∧
      after.next = start.next + t.holes.length := by
  rcases run : m.run start with c | ⟨f, after⟩
  · exact absurd distinct (h.error run)
  · exact ⟨f, after, rfl, h.ok run⟩

theorem Renders.outcome (h : Renders config t m) (start : Progress) :
    (m.run start).toOption.map (fun (f, after) => (f.text, f.parameters.entries, after.next)) =
      if (keysFrom config start.next t.holes).Nodup then
        some (fill config start.next t, entriesFrom config start.next t.holes,
          start.next + t.holes.length)
      else none := by
  rcases run : m.run start with c | ⟨f, after⟩
  · rw [if_neg (h.error run)]
    rfl
  · obtain ⟨fills, next⟩ := h.ok run
    rw [if_pos fills.nodup, ← fills.text, ← fills.entries, ← next]
    rfl

end Outcome

/-- Rendering with one running number is the same as listing the values of the statement first,
which looks at nothing but the statement, and numbering them then. The result is the statement's
template, whose holes are these values in this order and which knows neither the configuration nor
the number; the `i`-th hole shows the placeholder of number `start + i`, and the `i`-th parameter is
the `i`-th value under the key of that number. There is no result only if two of the keys are
equal. -/
theorem renderStatement_eq_numbered (s : Statement) (scope : Scope) :
    Template.holes (s.template scope) = s.holes ∧
      ∀ (config : Config) (start : Progress),
        ((renderStatement config scope s).run start).toOption.map
            (fun (f, after) => (f.text, f.parameters.entries, after.next)) =
          if (keysFrom config start.next s.holes).Nodup then
            some (fill config start.next (s.template scope),
              entriesFrom config start.next s.holes, start.next + s.holes.length)
          else none := by
  refine ⟨s.holes_template scope, ?_⟩
  intro config start
  rw [← s.holes_template scope]
  exact (renderStatement_renders scope s).outcome start

/-- A row of which two columns have a strategy of their own. -/
def ownStrategiesInsert : Statement :=
  let column (name : String) (strategy : Option Strategy) : Column :=
    ⟨⟨0, "person"⟩, name, .integer, none, strategy⟩
  .insert ⟨⟨0, "person"⟩, [⟨column "id" (some .myBatis), .value (.int 7)⟩,
    ⟨column "name" none, .value (.text "Ada")⟩, ⟨column "note" none, .null⟩,
    ⟨column "age" (some .numbered), .value (.int 36)⟩]⟩

/-- From the number four on, under the stem `q`. -/
theorem ownStrategiesInsert_eq_numbered :
    ((renderStatement ⟨.named, "q", none⟩ .empty ownStrategiesInsert).run ⟨4, []⟩).toOption.map
        (fun (f, after) => (f.text, f.parameters.entries, after.next)) =
      some ("insert into person (id, name, note, age) values " ++
          "(#\x7bparameters.q4,jdbcType=INTEGER\x7d, :q5, null, ?6)",
        [("q4", .int 7), ("q5", .text "Ada"), ("6", .int 36)], 7) := by
  have distinct : (keysFrom ⟨.named, "q", none⟩ 4 ownStrategiesInsert.holes).Nodup := by
    decide +kernel
  have numbered := (renderStatement_eq_numbered ownStrategiesInsert .empty).2 ⟨.named, "q", none⟩
    ⟨4, []⟩
  rw [if_pos distinct] at numbered
  rw [numbered]
  rfl

end Rendering

end BoundSql
