import SqlBuilder.Proofs.Columns.Settled
import SqlBuilder.Proofs.Rendering.Modes

/-!
# The quoting option

A builder with its columns resolved assembles by the same steps as before, with the columns
in them resolved (`Builder.script_resolved`): assembly moves expressions about and looks at
none. So a statement of builders with its columns resolved, those of its subqueries
included, assembles into the settled tree of the statement
(`Statement.script_resolved`), and that renders under either option as the statement does
under the one (`quoting_resolves_columns`).
-/

namespace SqlBuilder

variable {σ : Type}

/-! ## Steps -/

section Steps

variable (q : Bool)

theorem Script.map_node (m : Metadata Assembled) (content : Script Assembled)
    (delimiter : String) :
    (Script.node m content delimiter).map (Step.settled q)
      = Script.node (m.settled q) (content.map (Step.settled q)) delimiter := by
  simp only [Script.node, List.map_cons, List.map_append, List.map_nil, Step.settled]

/-- Settling steps settles the operands in them. -/
theorem Predicate.map_operands (es : List (Expression Assembled)) :
    (Predicate.operands es).map (Step.settled q)
      = Predicate.operands (es.map (Expression.settled q)) := by
  simp only [Predicate.operands, List.map_map]
  rfl

theorem Predicate.map_operation (operator : String) (es : List (Expression Assembled)) :
    (Predicate.operation operator es).map (Step.settled q)
      = Predicate.operation operator (es.map (Expression.settled q)) := by
  rw [Predicate.operation, Script.map_node, Predicate.map_operands]
  rfl

namespace Clause

/-- A list is left out or not by its length, which stays the same. -/
theorem map_list (keyword : String) (es : List (Expression Assembled)) :
    (Clause.list keyword es).map (Step.settled q)
      = Clause.list keyword (es.map (Expression.settled q)) := by
  cases es with
  | nil => rfl
  | cons e rest =>
      simp only [Clause.list, List.isEmpty_cons, List.map_cons, Bool.false_eq_true, if_false,
        Script.map_node, Step.settled, List.map_nil, List.map_map]
      rfl

theorem map_expression (keyword : String) (e : Option (Expression Assembled)) :
    (Clause.expression keyword e).map (Step.settled q)
      = Clause.expression keyword (e.map (Expression.settled q)) := by
  cases e <;> rfl

theorem map_joined (keyword : String) (nodes : List (Script Assembled)) :
    (Clause.joined keyword nodes).map (Step.settled q)
      = Clause.joined keyword (nodes.map (List.map (Step.settled q))) := by
  rw [Clause.joined, Script.map_node, List.map_flatten]
  rfl

end Clause

end Steps

/-! ## Builders -/

section Builders

variable {q : Bool} {f : σ → Assembled}

mutual

/-- Resolving the columns of an expression and settling its subqueries settles it as a whole. -/
theorem Expression.map_resolved : ∀ e : Expression σ,
    (e.resolved q).map (fun i => (f i).settled q) = (e.map f).settled q
  | .text _ _ _ | .value _ _ | .nested _ _ => rfl
  | .list elements suffix | .array elements suffix | .call _ elements suffix => by
      simp only [Expression.resolved, Expression.map, Expression.settled,
        Expression.mapAll_resolved elements]

theorem Expression.mapAll_resolved : ∀ es : List (Expression σ),
    Expression.mapAll (fun i => (f i).settled q) (Expression.resolvedAll q es)
      = Expression.settledAll q (Expression.mapAll f es)
  | [] => rfl
  | e :: rest => by
      rw [Expression.resolvedAll, Expression.mapAll, Expression.mapAll, Expression.settledAll,
        e.map_resolved, Expression.mapAll_resolved rest]

end

theorem expressions_resolved (es : List (Expression σ)) :
    (es.map (·.resolved q)).map (·.map fun i => (f i).settled q)
      = (es.map (·.map f)).map (Expression.settled q) := by
  simp only [List.map_map, Function.comp_def, Expression.map_resolved]

/-- Parentheses are given by the form of a chain, and that stays the same. -/
theorem Conditions.hasNested_resolved (c : Conditions σ) :
    ((c.resolved q).map fun i => (f i).settled q).hasNested = (c.map f).hasNested := by
  rcases c with ⟨predicate, _ | ⟨⟨connector, conditions⟩, rest⟩⟩ <;> rfl

mutual

/-- A chain takes the same steps, with settled operands. -/
theorem Conditions.chainScript_resolved (parentheses : Bool) : ∀ c : Conditions σ,
    ((c.resolved q).map fun i => (f i).settled q).chainScript parentheses
      = ((c.map f).chainScript parentheses).map (Step.settled q)
  | ⟨predicate, attached⟩ => by
      simp only [Conditions.resolved, Conditions.map, Conditions.chainScript, Script.map_node,
        List.map_append, predicate.script_resolved, Attached.scripts_resolved attached]
      rfl

theorem Predicate.script_resolved : ∀ p : Predicate σ,
    ((p.resolved q).map fun i => (f i).settled q).script = (p.map f).script.map (Step.settled q)
  | .compare left operator right | .membership left right operator => by
      simp only [Predicate.resolved, Predicate.map, Predicate.script, Predicate.map_operation,
        List.map_cons, List.map_nil, Expression.map_resolved]
  | .trailing operand operator => by
      simp only [Predicate.resolved, Predicate.map, Predicate.script, Predicate.map_operation,
        List.map_cons, List.map_nil, Expression.map_resolved]
  | .between left low high negated => by
      simp only [Predicate.resolved, Predicate.map, Predicate.script, Script.map_node,
        List.map_append, Predicate.map_operands, Predicate.map_operation, List.map_cons,
        List.map_nil, Expression.map_resolved]
      rfl
  | .existence operand negated => by
      simp only [Predicate.resolved, Predicate.map, Predicate.script, Script.map_node,
        Predicate.map_operands, List.map_cons, List.map_nil, Expression.map_resolved]
      rfl
  | .quantified left operator quantifier right => by
      simp only [Predicate.resolved, Predicate.map, Predicate.script, Predicate.map_operation,
        List.map_cons, List.map_nil, Expression.map_resolved]
      rfl
  | .group conditions => by
      rw [Predicate.resolved, Predicate.map, Predicate.map, Predicate.script, Predicate.script,
        conditions.chainScript_resolved true]

theorem Attached.scripts_resolved : ∀ as : List (Attached σ),
    Attached.scripts (Attached.mapAll (fun i => (f i).settled q) (Attached.resolvedAll q as))
      = (Attached.scripts (Attached.mapAll f as)).map (Step.settled q)
  | [] => rfl
  | ⟨connector, conditions⟩ :: rest => by
      simp only [Attached.resolvedAll, Attached.mapAll, Attached.scripts, List.map_append,
        Script.map_node, conditions.hasNested_resolved, conditions.chainScript_resolved,
        Attached.scripts_resolved rest]
      rfl

end

theorem Conditions.script_resolved (c : Conditions σ) :
    ((c.resolved q).map fun i => (f i).settled q).script = (c.map f).script.map (Step.settled q) :=
  c.chainScript_resolved false

/-- A clause with a chain takes the same steps, if it is there at all. -/
theorem Clause.conditions_resolved (keyword : String) (c : Option (Conditions σ)) :
    Clause.conditions keyword ((c.map (·.resolved q)).map (·.map fun i => (f i).settled q))
      = (Clause.conditions keyword (c.map (·.map f))).map (Step.settled q) := by
  cases c with
  | none => rfl
  | some c =>
      simp only [Clause.conditions, Option.map_some, Script.map_node, c.script_resolved]
      rfl

theorem Clause.list_resolved (keyword : String) (es : List (Expression σ)) :
    Clause.list keyword ((es.map (·.resolved q)).map (·.map fun i => (f i).settled q))
      = (Clause.list keyword (es.map (·.map f))).map (Step.settled q) := by
  rw [expressions_resolved, Clause.map_list]

theorem Clause.expression_resolved (keyword : String) (e : Option (Expression σ)) :
    Clause.expression keyword ((e.map (·.resolved q)).map (·.map fun i => (f i).settled q))
      = (Clause.expression keyword (e.map (·.map f))).map (Step.settled q) := by
  cases e with
  | none => rfl
  | some e =>
      rw [Clause.map_expression, Option.map_some, Option.map_some, e.map_resolved]
      rfl

theorem Join.script_resolved (j : Join σ) :
    ((j.resolved q).map fun i => (f i).settled q).script
      = (j.map f).script.map (Step.settled q) := by
  simp only [Join.resolved, Join.map, Join.script, Script.map_node, List.map_cons,
    Clause.conditions_resolved, Expression.map_resolved]
  rfl

theorem OrderElement.script_resolved (o : OrderElement σ) :
    ((o.resolved q).map fun i => (f i).settled q).script
      = (o.map f).script.map (Step.settled q) := by
  obtain ⟨key, direction, nulls⟩ := o
  simp only [OrderElement.resolved, OrderElement.map, OrderElement.script, Script.map_node,
    List.map_cons, Expression.map_resolved]
  cases nulls <;> rfl

/-- The steps of the parts of a list, each on its own. -/
theorem scripts_resolved {α β : Type} {resolved : α → α} {mapped mapped' : α → β}
    {script : β → Script Assembled}
    (h : ∀ a, script (mapped' (resolved a)) = (script (mapped a)).map (Step.settled q))
    (as : List α) :
    ((as.map resolved).map mapped').map script
      = ((as.map mapped).map script).map (List.map (Step.settled q)) := by
  simp only [List.map_map, Function.comp_def, h]

theorem OrderElement.clause_resolved (elements : List (OrderElement σ)) :
    OrderElement.clause ((elements.map (·.resolved q)).map (·.map fun i => (f i).settled q))
      = (OrderElement.clause (elements.map (·.map f))).map (Step.settled q) := by
  unfold OrderElement.clause
  rw [scripts_resolved OrderElement.script_resolved, ← Clause.map_joined]
  cases elements <;> rfl

/-! ## Statements of SQL -/

theorem Select.outputScript_resolved (s : Select σ) :
    ((s.resolved q).map fun i => (f i).settled q).outputScript
      = (s.map f).outputScript.map (Step.settled q) := by
  obtain ⟨isDistinct, outputs, sources, joins, restriction, grouping, groupRestriction, unions,
    ordering, rowLimit, rowOffset⟩ := s
  simp only [Select.resolved, Select.map, Select.outputScript, Script.map_node,
    expressions_resolved]
  cases outputs with
  | nil => rfl
  | cons e rest =>
      simp only [List.map_cons, List.isEmpty_cons, Bool.false_eq_true, if_false, List.map_nil,
        Step.settled, List.map_map]
      rfl

/-- The clauses in front of the unions, one by one. -/
theorem Select.coreScript_resolved (s : Select σ) :
    ((s.resolved q).map fun i => (f i).settled q).coreScript
      = (s.map f).coreScript.map (Step.settled q) := by
  unfold Select.coreScript
  rw [Select.outputScript_resolved]
  obtain ⟨isDistinct, outputs, sources, joins, restriction, grouping, groupRestriction, unions,
    ordering, rowLimit, rowOffset⟩ := s
  simp only [Select.resolved, Select.map, List.map_append, Clause.list_resolved,
    Clause.conditions_resolved, List.flatMap_def, List.map_flatten,
    scripts_resolved Join.script_resolved]

theorem Select.trailingScript_resolved (s : Select σ) :
    ((s.resolved q).map fun i => (f i).settled q).trailingScript
      = (s.map f).trailingScript.map (Step.settled q) := by
  obtain ⟨isDistinct, outputs, sources, joins, restriction, grouping, groupRestriction, unions,
    ordering, rowLimit, rowOffset⟩ := s
  simp only [Select.resolved, Select.map, Select.trailingScript, List.map_append,
    OrderElement.clause_resolved, Clause.expression_resolved]

/-- Which fields a SELECT has stays the same, and so do its parentheses. -/
theorem Select.needsParentheses_resolved (s : Select σ) :
    ((s.resolved q).map fun i => (f i).settled q).needsParentheses
      = (s.map f).needsParentheses := by
  obtain ⟨isDistinct, outputs, sources, joins, restriction, grouping, groupRestriction, unions,
    ordering, rowLimit, rowOffset⟩ := s
  have hunions : (UnionMember.mapAll (fun i => (f i).settled q)
      (UnionMember.resolvedAll q unions)).isEmpty = (UnionMember.mapAll f unions).isEmpty := by
    rcases unions with _ | ⟨⟨keepsDuplicates, select⟩, rest⟩ <;> rfl
  simp only [Select.resolved, Select.map, Select.needsParentheses, hunions, List.isEmpty_map,
    Option.isSome_map]

mutual

/-- A SELECT takes the same steps with its clauses settled, and so do its unions. -/
theorem Select.nestedScript_resolved (parentheses : Bool) : ∀ s : Select σ,
    ((s.resolved q).map fun i => (f i).settled q).nestedScript parentheses
      = ((s.map f).nestedScript parentheses).map (Step.settled q)
  | ⟨isDistinct, outputs, sources, joins, restriction, grouping, groupRestriction, unions,
      ordering, rowLimit, rowOffset⟩ => by
      let s : Select σ := ⟨isDistinct, outputs, sources, joins, restriction, grouping,
        groupRestriction, unions, ordering, rowLimit, rowOffset⟩
      have hcore : ((s.resolved q).map fun i => (f i).settled q).coreScript = _ :=
        s.coreScript_resolved
      have htrailing : ((s.resolved q).map fun i => (f i).settled q).trailingScript = _ :=
        s.trailingScript_resolved
      simp only [s, Select.resolved, Select.map] at hcore htrailing
      simp only [Select.resolved, Select.map, Select.nestedScript, hcore, htrailing,
        UnionMember.scripts_resolved unions, Script.map_node, List.map_append]
      rfl

theorem UnionMember.scripts_resolved : ∀ members : List (UnionMember σ),
    UnionMember.scripts (UnionMember.mapAll (fun i => (f i).settled q)
        (UnionMember.resolvedAll q members))
      = (UnionMember.scripts (UnionMember.mapAll f members)).map (Step.settled q)
  | [] => rfl
  | ⟨keepsDuplicates, select⟩ :: rest => by
      simp only [UnionMember.resolvedAll, UnionMember.mapAll, UnionMember.scripts,
        List.map_append, Script.map_node, select.needsParentheses_resolved,
        select.nestedScript_resolved, UnionMember.scripts_resolved rest]
      rfl

end

theorem Insert.targetScript_resolved (i : Insert σ) :
    ((i.resolved q).map fun i => (f i).settled q).targetScript
      = (i.map f).targetScript.map (Step.settled q) := by
  obtain ⟨table, targets, source, skipsConflicts, results⟩ := i
  simp only [Insert.resolved, Insert.map, Insert.targetScript, Script.map_node, List.map_cons,
    Expression.map_resolved, expressions_resolved, ← Expression.settledAll_eq_map]
  cases targets <;> rfl

/-- Each row is a list of its own, so that its columns are resolved as those of a list. -/
theorem Insert.sourceScript_resolved (i : Insert σ) :
    ((i.resolved q).map fun i => (f i).settled q).sourceScript
      = (i.map f).sourceScript.map (Step.settled q) := by
  obtain ⟨table, targets, source, skipsConflicts, results⟩ := i
  rcases source with (_ | ⟨row, rows⟩) | s
  · rfl
  · have hrow (row : List (Expression Assembled)) :
        Expression.settled q (.list row) = .list (row.map (Expression.settled q)) := by
      rw [Expression.settled, Expression.settledAll_eq_map]
    have hrows : (((row :: rows).map (·.map (·.resolved q))).map
          (·.map (·.map fun i => (f i).settled q))).map (.list ·)
        = (((row :: rows).map (·.map (·.map f))).map (.list ·)).map (Expression.settled q) := by
      simp only [List.map_map, Function.comp_def, hrow, Expression.map_resolved]
    exact (congrArg (Clause.list Keyword.values) hrows).trans (Clause.map_list q _ _).symm
  · exact s.nestedScript_resolved false

theorem Insert.script_resolved (i : Insert σ) :
    ((i.resolved q).map fun i => (f i).settled q).script
      = (i.map f).script.map (Step.settled q) := by
  obtain ⟨table, targets, source, skipsConflicts, results⟩ := i
  unfold Insert.script
  rw [Insert.targetScript_resolved, Insert.sourceScript_resolved]
  simp only [Script.map_node, List.map_append, Insert.resolved, Insert.map, Clause.list_resolved]
  cases skipsConflicts <;> rfl

theorem Assignment.script_resolved (a : Assignment σ) :
    ((a.resolved q).map fun i => (f i).settled q).script
      = (a.map f).script.map (Step.settled q) := by
  simp only [Assignment.resolved, Assignment.map, Assignment.script, Predicate.map_operation,
    List.map_cons, List.map_nil, Expression.map_resolved]

theorem Update.script_resolved (u : Update σ) :
    ((u.resolved q).map fun i => (f i).settled q).script
      = (u.map f).script.map (Step.settled q) := by
  simp only [Update.resolved, Update.map, Update.script, Script.map_node, List.map_append,
    Clause.list_resolved, Clause.conditions_resolved, scripts_resolved Assignment.script_resolved,
    ← Clause.map_joined, Expression.map_resolved, List.isEmpty_map]
  cases u.assignments <;> rfl

theorem Delete.script_resolved (d : Delete σ) :
    ((d.resolved q).map fun i => (f i).settled q).script
      = (d.map f).script.map (Step.settled q) := by
  simp only [Delete.resolved, Delete.map, Delete.script, Script.map_node, List.map_append,
    Clause.list_resolved, Clause.conditions_resolved, Expression.map_resolved]
  rfl

/-- The header of a table is made of texts, which have no columns to settle. -/
theorem CommonTableExpression.header_settled (c : CommonTableExpression Assembled) :
    c.header.settled q = c.header := by
  have hcolumns : Expression.settledAll q (c.columns.map Expression.raw)
      = c.columns.map Expression.raw := by
    rw [Expression.settledAll_eq_map, List.map_map]
    rfl
  unfold CommonTableExpression.header
  split
  · rfl
  · rw [Expression.settled, hcolumns]

theorem CommonTableExpression.script_settled (c : CommonTableExpression σ) :
    (c.map fun i => (f i).settled q).script = (c.map f).script.map (Step.settled q) := by
  have hheader : (c.map fun i => (f i).settled q).header = (c.map f).header := rfl
  rw [CommonTableExpression.script, CommonTableExpression.script, Predicate.map_operation,
    List.map_cons, List.map_cons, (c.map f).header_settled, hheader]
  rfl

theorem With.script_resolved (isRecursive : Bool) (expressions : List (CommonTableExpression σ))
    {content content' : Option (Script Assembled)}
    (hcontent : content' = content.map (List.map (Step.settled q))) :
    With.script
        { isRecursive, expressions := expressions.map (·.map (fun i => (f i).settled q)),
          content := content' }
      = (With.script { isRecursive, expressions := expressions.map (·.map f), content }).map
          (Step.settled q) := by
  have hexpressions : (expressions.map (·.map (fun i => (f i).settled q))).map
        CommonTableExpression.script
      = ((expressions.map (·.map f)).map CommonTableExpression.script).map
          (List.map (Step.settled q)) := by
    simp only [List.map_map, Function.comp_def, CommonTableExpression.script_settled]
  subst hcontent
  simp only [With.script, With.expressionScript, Script.map_node, List.map_append, hexpressions,
    apply_ite (List.map (Step.settled q)), Clause.map_joined, List.isEmpty_map]
  cases content <;> rfl

/-- A builder with its columns resolved takes the same steps as before, settled. -/
theorem Builder.script_resolved : ∀ b : Builder σ,
    ((b.resolved q).map fun i => (f i).settled q).script = (b.map f).script.map (Step.settled q)
  | .select s => s.nestedScript_resolved false
  | .insert i => i.script_resolved
  | .update u => u.script_resolved
  | .delete d => d.script_resolved
  | .with_ isRecursive expressions none => With.script_resolved isRecursive expressions rfl
  | .with_ isRecursive expressions (some body) =>
      With.script_resolved isRecursive expressions (congrArg some body.script_resolved)
  | .commonTable c => c.script_settled
  | .join j => j.script_resolved
  | .orderElement o => o.script_resolved
  | .conditions c => c.script_resolved

end Builders

/-! ## Whole statements -/

/-- A statement with all its columns resolved takes the settled steps. By induction its subqueries
do so too, and what they assemble into is then settled. -/
theorem Statement.script_resolved (q : Bool) : ∀ s : Statement,
    (s.resolved q).outline.script = s.outline.script.map (Step.settled q)
  | ⟨count, builder, nested⟩ => by
      have hnested : (fun i => ((nested i).resolved q).assembled)
          = fun i => (nested i).assembled.settled q := by
        funext i
        rw [Statement.assembled_eq, (nested i).script_resolved q, Assembled.ofScript_settled,
          ← Statement.assembled_eq]
      show (Builder.map (fun i => ((nested i).resolved q).assembled)
        (builder.resolved q)).script = _
      rw [hnested]
      exact builder.script_resolved

section Quoting

variable (s : Statement)

theorem Statement.render_resolved (style : PlaceholderStyle) (q other : Bool) :
    render (s.resolved q) ⟨style, other⟩ = render s ⟨style, q⟩ :=
  render_of_settled (s.script_resolved q) style other

theorem Statement.renderPrepared_resolved (style : PlaceholderStyle) (q other : Bool) :
    renderPrepared (s.resolved q) ⟨style, other⟩ = renderPrepared s ⟨style, q⟩ :=
  renderPrepared_of_settled (s.script_resolved q) style other

/-- Whether rendering fails, and how, is told by the walk of the tree, which knows nothing
of a configuration. -/
theorem Statement.render_fails_alike (config config' : RenderConfig) :
    (render s config).value.map (fun _ => ()) = (render s config').value.map (fun _ => ()) := by
  let tree := Tree.of s
  have houtcome (config : RenderConfig) : (render s config).value.map (fun _ => ())
      = Encounter.outcome tree.encounters () :=
    (congrArg (Except.map fun _ => ()) (tree.render_outcome config)).trans
      (Encounter.map_outcome ..)
  rw [houtcome, houtcome]

theorem Statement.params_alike (config config' : RenderConfig) :
    (renderPrepared s config).value.map (·.params)
      = (renderPrepared s config').value.map (·.params) := by
  let tree := Tree.of s
  have houtcome (config : RenderConfig) : (renderPrepared s config).value.map (·.params)
      = Encounter.outcome tree.encounters (Encounter.parameters tree.encounters) :=
    (congrArg (Except.map (·.params)) (tree.renderPrepared_outcome config)).trans
      (Encounter.map_outcome ..)
  rw [houtcome, houtcome]

end Quoting

/-- The option whether columns are quoted only resolves those that leave it open. Under it a
statement renders, in either mode, as the statement in which each of these columns says so
itself, and that one renders alike under both options. So the configuration has no say in
whether rendering fails, nor in the parameters, and the option none at all if no column
leaves it open. -/
theorem quoting_resolves_columns (s : Statement) (style : PlaceholderStyle) (q other : Bool) :
    render s ⟨style, q⟩ = render (s.resolved q) ⟨style, other⟩
    ∧ renderPrepared s ⟨style, q⟩ = renderPrepared (s.resolved q) ⟨style, other⟩
    ∧ (∀ config config',
        (render s config).value.map (fun _ => ()) = (render s config').value.map (fun _ => ())
        ∧ (renderPrepared s config).value.map (·.params)
          = (renderPrepared s config').value.map (·.params))
    ∧ (s.undecided = [] →
        render s ⟨style, q⟩ = render s ⟨style, other⟩
        ∧ renderPrepared s ⟨style, q⟩ = renderPrepared s ⟨style, other⟩) := by
  have hrender := s.render_resolved style q other
  have hprepared := s.renderPrepared_resolved style q other
  refine ⟨hrender.symm, hprepared.symm, fun config config' => ?_, fun hdecided => ?_⟩
  · exact ⟨s.render_fails_alike config config', s.params_alike config config'⟩
  · rw [s.resolved_of_decided hdecided] at hrender hprepared
    exact ⟨hrender.symm, hprepared.symm⟩

/-- Columns beside a subquery and within it are resolved alike, and then nothing is left to
the option. -/
theorem quoting_resolves_columns_subquery :
    let s := Statement.interleaved
    let sql :=
      "SELECT 7 WHERE \"id\" IN (SELECT \"id\" FROM \"users\" WHERE \"age\" >= 18) LIMIT 10"
    s.undecided = ["id", "id", "users", "age"] ∧ (s.resolved true).undecided = []
    ∧ (render s ⟨.question, true⟩).value = .ok sql
    ∧ (render (s.resolved true) ⟨.question, false⟩).value = .ok sql
    ∧ renderPrepared (s.resolved true) ⟨.numbered, true⟩
      = renderPrepared (s.resolved true) ⟨.numbered, false⟩ := by
  intro s sql
  have hsql : (render s ⟨.question, true⟩).value = .ok sql := rfl
  have hdecided : (s.resolved true).undecided = [] := rfl
  obtain ⟨hsame, -⟩ := quoting_resolves_columns s .question true false
  obtain ⟨-, -, -, halike⟩ := quoting_resolves_columns (s.resolved true) .numbered true false
  exact ⟨rfl, hdecided, hsql, hsame ▸ hsql, (halike hdecided).2⟩

end SqlBuilder
