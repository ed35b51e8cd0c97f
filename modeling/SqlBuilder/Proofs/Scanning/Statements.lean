import SqlBuilder.Proofs.Scanning.Clauses

/-!
# Strings in statements

The nodes of selections, insertions, updates, deletions and named statements have
safe places for their strings if their subqueries have. What decides about a
statement's form (whether it has outputs, unions, an order, rows, assignments) does
not depend on strings.
-/

namespace SqlBuilder

variable {σ : Type} {config : RenderConfig} {f : σ → Marked Assembled}

theorem Clause.safe_bareNode {α : Type} {a : α} {word : String} (hword : Neutral word) :
    Safe (.node config fun _ => Clause.bareNode word) (Marked.pure a) := by
  have hnone : Safe (.tokens config fun _ => []) (Marked.pure a) := .blank rfl
  exact hnone.leafClause hword neutral_defaultDelimiter

/-! ## SELECT -/

namespace Select

theorem safe_outputNode (hf : ∀ i, Safe (.assembled config) (f i)) (isDistinct : Bool)
    (outputs : List (Expression σ)) :
    Safe (.node config fun outputs => outputNode { isDistinct, outputs })
      (Expression.markedEach config f outputs) := by
  have hword : Neutral (if isDistinct then Keyword.selectDistinct else Keyword.select) := by
    cases isDistinct <;> decide
  cases outputs with
  | nil =>
      have hstar : Safe (.tokens config fun _ : List (Expression Assembled) => [.raw "*"])
          (.pure []) := by
        refine .pure (List.forall_mem_singleton.mpr ?_)
        rw [Token.raw, Token.literalText_expression, Expression.raw, Expression.literalText_text]
        exact (by decide : Neutral (Suffix.attach {} "*"))
      exact (hstar.leafClause hword Clause.neutral_listDelimiter).node_congr
        (Marked.always_pure rfl)
  | cons e rest =>
      have houtputs := Safe.tokens (e := id) (Expression.safeAll hf (e :: rest))
      refine (houtputs.leafClause hword Clause.neutral_listDelimiter).node_congr
        ((Marked.always_isEmpty_list _).mono fun es hes => ?_)
      simp only [outputNode]
      rw [hes]
      rfl

/-- Whether a selection needs parentheses does not depend on strings. -/
theorem always_needsParentheses (s : Select σ) :
    (s.marked config f).Always fun s' => s'.needsParentheses = s.needsParentheses := by
  obtain ⟨_, _, _, _, _, _, _, unions, ordering, rowLimit, rowOffset⟩ := s
  have hunions : (UnionMember.markedAll config f unions).Always fun members =>
      members.isEmpty = unions.isEmpty := by
    cases unions with
    | nil => exact Marked.always_pure rfl
    | cons member rest =>
        obtain ⟨keepsDuplicates, select⟩ := member
        rw [UnionMember.markedAll, Marked.always_map]
        exact .of_forall (fun _ => rfl) _
  have hordering := Marked.always_isEmpty_list (ordering.map (OrderElement.marked config f))
  have hlimit := Marked.always_isSome_option (rowLimit.map (Expression.marked config f))
  have hoffset := Marked.always_isSome_option (rowOffset.map (Expression.marked config f))
  have htrailing := (hordering.pair hlimit).pair hoffset
  rw [Select.marked, Marked.always_map]
  refine ((hunions.right _).pair htrailing).mono fun p hp => ?_
  obtain ⟨⟨core, members⟩, ⟨order, limit⟩, offset⟩ := p
  obtain ⟨hmembers, ⟨horder, hlimit⟩, hoffset⟩ := hp
  simp_all [needsParentheses]

end Select

mutual

theorem Select.safe_nested (hf : ∀ i, Safe (.assembled config) (f i)) (parentheses : Bool) :
    ∀ s : Select σ, Safe (.node config (Select.nestedNode parentheses)) (s.marked config f)
  | ⟨isDistinct, outputs, sources, joins, restriction, grouping, groupRestriction, unions,
      ordering, rowLimit, rowOffset⟩ => by
      have houtputs := (Select.safe_outputNode hf isDistinct outputs).only
      have hsources := Clause.safe_list (by decide : Neutral Keyword.from_) hf sources
      have hjoins := Safe.nodes (List.forall_mem_map.mpr fun j (_ : j ∈ joins) => j.safe hf)
      have hrestriction :=
        Clause.safe_conditions (by decide : Neutral Keyword.where_) hf restriction
      have hgrouping := Clause.safe_list (by decide : Neutral Keyword.groupBy) hf grouping
      have hgroupRestriction :=
        Clause.safe_conditions (by decide : Neutral Keyword.having) hf groupRestriction
      have hcore := ((((houtputs.append hsources).append hjoins).append hrestriction).append
        hgrouping).append hgroupRestriction
      have hordering := OrderElement.safe_clauseNodes hf ordering
      have hlimit := Clause.safe_expression (by decide : Neutral Keyword.limit) hf rowLimit
      have hoffset := Clause.safe_expression (by decide : Neutral Keyword.offset) hf rowOffset
      have htrailing := (hordering.append hlimit).append hoffset
      have hall := (hcore.append (UnionMember.safe hf unions)).append htrailing
      rw [Select.marked]
      exact (hall.around parentheses).mapEq (fun _ => Iff.rfl) fun _ => rfl

theorem UnionMember.safe (hf : ∀ i, Safe (.assembled config) (f i)) :
    ∀ members : List (UnionMember σ),
      Safe (.nodes config UnionMember.nodes) (UnionMember.markedAll config f members)
  | [] => .blank rfl
  | ⟨keepsDuplicates, select⟩ :: rest => by
      have hword : Neutral (UnionMember.keyword keepsDuplicates) := by
        cases keepsDuplicates <;> decide
      have hselect : Safe (.node config fun s => s.nestedNode s.needsParentheses)
          (select.marked config f) := by
        refine (select.safe_nested hf select.needsParentheses).node_congr
          (select.always_needsParentheses.mono fun s hs => ?_)
        rw [hs]
      have hclause := hselect.only.nodeClause hword neutral_defaultDelimiter
      exact (hclause.only.append (UnionMember.safe hf rest)).mapEq (fun _ => Iff.rfl) fun _ => rfl

end

theorem Select.safe (hf : ∀ i, Safe (.assembled config) (f i)) (s : Select σ) :
    Safe (.node config Select.node) (s.marked config f) := s.safe_nested hf false

/-! ## INSERT -/

namespace Insert

theorem safe_targetNode (hf : ∀ i, Safe (.assembled config) (f i)) (table : Expression σ)
    (targets : List (Expression σ)) :
    Safe (.node config fun p => targetNode { table := p.1, targets := p.2 })
      ((table.marked config f).pair (Expression.markedEach config f targets)) := by
  have htargets : Safe (.tokens config fun es : List (Expression Assembled) =>
      if es.isEmpty then [] else [.expression (.list es)])
      (Expression.markedEach config f targets) := by
    cases targets with
    | nil => exact .blank rfl
    | cons e rest =>
        have hes := Expression.safeAll hf (e :: rest)
        refine (Safe.token (Expression.safe_list hes Suffix.neutral_raw_empty)).tokens_congr
          ((Marked.always_isEmpty_list _).mono fun es hes => ?_)
        rw [hes]
        rfl
  have hleaves := (Safe.token (table.safe hf)).appendTokens htargets
  exact hleaves.leafClause (by decide : Neutral Keyword.insertInto) neutral_defaultDelimiter

/-- The sources of rows: none at all, some rows, or a selection. -/
theorem safe_sourceNodes (hf : ∀ i, Safe (.assembled config) (f i))
    (table : Expression Assembled) (source : InsertSource σ) :
    Safe (.nodes config fun source => sourceNodes { table, source })
      (source.marked config f) := by
  rcases source with (_ | ⟨row, rest⟩) | s
  · have hnone : Safe (.nodes config fun rows => sourceNodes { table, source := .rows rows })
        (.pure []) :=
      (Clause.safe_bareNode (by decide : Neutral Keyword.defaultValues)).only.nodes_congr
        (Marked.always_pure rfl)
    exact .map hnone
  · have hrows : ∀ m ∈ (row :: rest).map (Expression.markedEach config f),
        Safe ((Reading.expression config).comap (.list ·)) m :=
      List.forall_mem_map.mpr fun row _ =>
        Expression.safe_list (Expression.safeAll hf row) Suffix.neutral_raw_empty
    have hvalues := Clause.safe_listNodes (by decide : Neutral Keyword.values) hrows
    have hsome : Safe (.nodes config fun rows => sourceNodes { table, source := .rows rows })
        (.list ((row :: rest).map (Expression.markedEach config f))) := by
      refine hvalues.nodes_congr ((Marked.always_isEmpty_list _).mono fun rows h => ?_)
      cases rows with
      | nil => cases h
      | cons row rest => rfl
    exact .map hsome
  · exact ((s.safe hf).only).mapEq (fun _ => Iff.rfl) fun _ => rfl

theorem safe (hf : ∀ i, Safe (.assembled config) (f i)) (i : Insert σ) :
    Safe (.node config node) (i.marked config f) := by
  have htarget := (safe_targetNode hf i.table i.targets).only
  have hsource := safe_sourceNodes hf (i.table.marked config f).whole i.source
  have hconflict : Safe (.nodes config fun _ : Unit =>
      if i.skipsConflicts then [Clause.bareNode Keyword.onConflictDoNothing] else [])
      (.pure ()) := by
    cases i.skipsConflicts with
    | true => exact (Clause.safe_bareNode (by decide)).only
    | false => exact .blank rfl
  have hresults := Clause.safe_list (by decide : Neutral Keyword.returning) hf i.results
  have hall := ((htarget.append hsource).appendFixed hconflict).append hresults
  exact (hall.around false).mapEq (fun _ => Iff.rfl) fun _ => rfl

end Insert

/-! ## UPDATE -/

theorem Assignment.safe (hf : ∀ i, Safe (.assembled config) (f i)) (a : Assignment σ) :
    Safe (.node config Assignment.node) (a.marked config f) :=
  ((a.column.safe hf).operation (by decide : Neutral "=") (a.value.safe hf)).mapEq
    (fun _ => Iff.rfl) fun _ => rfl

/-- A keyword with a table behind it. -/
theorem Clause.safe_table {keyword : String} (hkeyword : Neutral keyword)
    (hf : ∀ i, Safe (.assembled config) (f i)) (table : Expression σ) :
    Safe (.nodes config fun e => expressionNodes keyword (some e)) (table.marked config f) := by
  have htable := Safe.token (table.safe hf)
  exact (htable.leafClause hkeyword neutral_defaultDelimiter).only

namespace Update

theorem safe (hf : ∀ i, Safe (.assembled config) (f i)) (u : Update σ) :
    Safe (.node config node) (u.marked config f) := by
  have htable := Clause.safe_table (by decide : Neutral Keyword.update) hf u.table
  have hassignments := (Safe.joined (by decide : Neutral Keyword.set)
    (List.forall_mem_map.mpr fun a (_ : a ∈ u.assignments) => a.safe hf)).only
  have hsources := Clause.safe_list (by decide : Neutral Keyword.from_) hf u.sources
  have hrestriction := Clause.safe_conditions (by decide : Neutral Keyword.where_) hf u.restriction
  have hresults := Clause.safe_list (by decide : Neutral Keyword.returning) hf u.results
  have hall := (((htable.append hassignments).append hsources).append hrestriction).append hresults
  exact (hall.around false).mapEq (fun _ => Iff.rfl) fun _ => rfl

/-- Whether an update is rejected does not depend on strings. -/
theorem always_rejection (u : Update σ) :
    (u.marked config f).Always fun u' => u'.rejection = u.rejection := by
  have hassignments := Marked.always_isEmpty_list (u.assignments.map (Assignment.marked config f))
  rw [Update.marked, Marked.always_map]
  refine ((((hassignments.right _).left _).left _).left _).mono fun p hp => ?_
  rw [List.isEmpty_map] at hp
  exact congrArg (if · then some noAssignment else none) hp

end Update

/-! ## DELETE -/

theorem Delete.safe (hf : ∀ i, Safe (.assembled config) (f i)) (d : Delete σ) :
    Safe (.node config Delete.node) (d.marked config f) := by
  have htable := Clause.safe_table (by decide : Neutral Keyword.deleteFrom) hf d.table
  have hsources := Clause.safe_list (by decide : Neutral Keyword.using_) hf d.sources
  have hrestriction := Clause.safe_conditions (by decide : Neutral Keyword.where_) hf d.restriction
  have hresults := Clause.safe_list (by decide : Neutral Keyword.returning) hf d.results
  have hall := ((htable.append hsources).append hrestriction).append hresults
  exact (hall.around false).mapEq (fun _ => Iff.rfl) fun _ => rfl

/-! ## WITH -/

namespace CommonTableExpression

/-- The name with its columns is written as it is. -/
theorem neutral_header (c : CommonTableExpression Assembled)
    (h : ∀ t ∈ c.name :: c.columns, Neutral t) : Neutral (c.header.literalText config) := by
  obtain ⟨hname, hcolumns⟩ := List.forall_mem_cons.mp h
  have hraw {t : String} (ht : Neutral t) : Neutral (Expression.literalText config (.raw t)) := by
    rw [Expression.raw, Expression.literalText_text]
    exact (ht.append Neutral.empty).append Neutral.empty
  unfold header
  split
  · exact hraw hname
  · rw [Expression.literalText_call]
    have hcall := Expression.neutral_callText config hname false
      (List.forall_mem_map.mpr fun t ht => hraw (hcolumns t ht))
    exact (hcall.append Neutral.empty).append Neutral.empty

theorem safe (hf : ∀ i, Safe (.assembled config) (f i)) (c : CommonTableExpression σ) :
    Safe (.node config node) (c.marked f) := by
  refine .withRaw fun h => ?_
  let outline : CommonTableExpression Assembled := ⟨c.name, c.columns, (f c.statement).whole⟩
  have hheader : Safe ((Reading.expression config).comap fun _ : Unit => outline.header)
      (.pure ()) := .pure (List.forall_mem_singleton.mpr (outline.neutral_header h))
  have hstatement := Expression.safe_nested (hf c.statement) Suffix.neutral_raw_empty
  exact (hheader.operation (by decide : Neutral Keyword.as) hstatement).unpairLeft.mapEq
    (fun _ => Iff.rfl) fun _ => rfl

end CommonTableExpression

theorem With.safe_expressionNodes (hf : ∀ i, Safe (.assembled config) (f i))
    (isRecursive : Bool) (cs : List (CommonTableExpression σ)) :
    Safe (.nodes config fun expressions => With.expressionNodes { isRecursive, expressions })
      (.list (cs.map (CommonTableExpression.marked f))) := by
  have hword : Neutral (if isRecursive then Keyword.withRecursive else Keyword.with_) := by
    cases isRecursive <;> decide
  have hjoined := (Safe.joined hword
    (List.forall_mem_map.mpr fun c (_ : c ∈ cs) => c.safe hf)).only
  cases cs with
  | nil => exact .blank rfl
  | cons c rest =>
      refine hjoined.nodes_congr ((Marked.always_isEmpty_list _).mono fun cs hcs => ?_)
      simp only [With.expressionNodes]
      rw [hcs]
      rfl

end SqlBuilder
