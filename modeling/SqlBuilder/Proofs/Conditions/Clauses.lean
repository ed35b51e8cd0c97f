import SqlBuilder.Proofs.Conditions.Reading

/-!
# The clauses of conditions

A statement that holds a chain has one clause for it, opened by its own keyword
(`HasClause`): all other clauses open with other words (`Open`). Rendering the
statement renders the chain in that place as it would be rendered alone.
-/

namespace SqlBuilder

/-! ## The words that open clauses -/

/-- The keyword that opens a clause. -/
def Node.word? {σ : Type} (n : Node σ) : Option String :=
  match n.metadata.token with
  | some (.keyword name) => some name
  | _ => none

/-- All nodes are clauses, opened by some of the words. -/
def Open (words : List String) (nodes : List (Node Assembled)) : Prop :=
  ∀ n ∈ nodes, ∃ word ∈ words, n.word? = some word

namespace Open

variable {words words' : List String} {nodes nodes' : List (Node Assembled)}

theorem filter_eq_nil {keyword : String} (h : Open words nodes) (hkeyword : keyword ∉ words) :
    nodes.filter (·.word? == some keyword) = [] := by
  refine List.filter_eq_nil_iff.mpr fun n hn hword => ?_
  obtain ⟨word, hmem, hopens⟩ := h n hn
  rw [hopens, beq_iff_eq] at hword
  obtain rfl := Option.some.inj hword
  exact hkeyword hmem

theorem append (h : Open words nodes) (h' : Open words' nodes') :
    Open (words ++ words') (nodes ++ nodes') := by
  intro n hn
  rcases List.mem_append.mp hn with hn | hn
  · obtain ⟨word, hmem, hopens⟩ := h n hn
    exact ⟨word, List.mem_append_left _ hmem, hopens⟩
  · obtain ⟨word, hmem, hopens⟩ := h' n hn
    exact ⟨word, List.mem_append_right _ hmem, hopens⟩

theorem of_eq {word : String} (h : ∀ n ∈ nodes, n.word? = some word) : Open [word] nodes :=
  fun n hn => ⟨word, List.mem_singleton_self word, h n hn⟩

theorem map {α : Type} {built : α → Node Assembled} {as : List α}
    (h : ∀ a, ∃ word ∈ words, (built a).word? = some word) : Open words (as.map built) := by
  intro n hn
  obtain ⟨a, -, rfl⟩ := List.mem_map.mp hn
  exact h a

theorem list (keyword : String) (es : List (Expression Assembled)) :
    Open [keyword] (Clause.listNodes keyword es) := by
  refine of_eq fun n hn => ?_
  rw [Clause.eq_of_mem_listNodes hn]
  rfl

theorem expression (keyword : String) (e : Option (Expression Assembled)) :
    Open [keyword] (Clause.expressionNodes keyword e) :=
  map fun _ => ⟨keyword, List.mem_singleton_self keyword, rfl⟩

theorem conditions (keyword : String) (c : Option (Conditions Assembled)) :
    Open [keyword] (Clause.conditionsNodes keyword c) :=
  map fun _ => ⟨keyword, List.mem_singleton_self keyword, rfl⟩

theorem joined (keyword : String) (nodes : List (Node Assembled)) :
    Open [keyword] [Clause.joinedNode keyword nodes] :=
  of_eq fun n hn => by rw [List.mem_singleton.mp hn]; rfl

theorem output (s : Select Assembled) :
    Open [Keyword.select, Keyword.selectDistinct] [s.outputNode] := by
  intro n hn
  rw [List.mem_singleton.mp hn]
  by_cases h : s.isDistinct = true
  · exact ⟨Keyword.selectDistinct, by simp, by simp [Select.outputNode, Node.word?, h]; rfl⟩
  · exact ⟨Keyword.select, by simp, by simp [Select.outputNode, Node.word?, h]; rfl⟩

theorem joins (js : List (Join Assembled)) :
    Open [Keyword.innerJoin, Keyword.leftJoin, Keyword.rightJoin, Keyword.fullJoin,
      Keyword.crossJoin] (js.map Join.node) := by
  refine map fun j => ⟨j.kind.keyword, ?_, rfl⟩
  cases j.kind <;> simp [JoinKind.keyword]

theorem unions : ∀ members : List (UnionMember Assembled),
    Open [Keyword.unionAll, Keyword.union] (UnionMember.nodes members)
  | [], _, hn => absurd hn List.not_mem_nil
  | ⟨keepsDuplicates, select⟩ :: rest, n, hn => by
      rw [UnionMember.nodes, List.mem_cons] at hn
      rcases hn with rfl | hn
      · refine ⟨UnionMember.keyword keepsDuplicates, ?_, rfl⟩
        cases keepsDuplicates <;> simp [UnionMember.keyword]
      · exact unions rest n hn

theorem order (elements : List (OrderElement Assembled)) :
    Open [Keyword.orderBy] (OrderElement.clauseNodes elements) := by
  refine of_eq fun n hn => ?_
  rw [OrderElement.eq_of_mem_clauseNodes hn]
  rfl

theorem trailing (s : Select Assembled) :
    Open [Keyword.orderBy, Keyword.limit, Keyword.offset] s.trailingNodes :=
  ((order s.ordering).append (expression Keyword.limit s.rowLimit)).append
    (expression Keyword.offset s.rowOffset)

end Open

/-! ## The clause of a chain -/

/-- A statement has one clause of the keyword, and it holds the chain. When the
statement is rendered, the clause stands among the texts of the other clauses,
with the chain as a formatter of the style renders it alone. -/
structure HasClause {α : Type} [Assemble α Assembled] (f : Formatter) (a : α)
    (keyword : String) (chain : Conditions Assembled) : Prop where
  only : ∀ root, (Tree.of a).root = .ok root →
    root.children.filter (·.word? == some keyword)
      = [⟨.keyword keyword, [], [chain.node], defaultDelimiter⟩]
  written : ∀ text, (f.renderStatement a).1 = .ok text →
    ∃ before condition after,
      text = " ".intercalate (before ++ [keyword ++ " " ++ condition] ++ after)
        ∧ f.Writes condition chain.lexemes
        ∧ ∃ g : Formatter, g.style = f.style ∧ (g.renderStatement chain).1 = .ok condition

/-- A clause that spells its chain stands as it is in the text of a node. -/
theorem Conditions.clause_among {style : Style} {chain : Conditions Assembled}
    (h : ∀ before, Spells style (chain.node.text style before) chain.lexemes)
    (keyword : String) (before : Nat) (inFront after : List (Node Assembled)) :
    ∃ behind textsInFront textsAfter,
      Node.text style before
          ⟨.empty, [], inFront ++ Clause.conditionsNodes keyword (some chain) ++ after,
            defaultDelimiter⟩
        = " ".intercalate
            (textsInFront ++ [keyword ++ " " ++ chain.node.text style behind] ++ textsAfter) := by
  let clause : Node Assembled := ⟨.keyword keyword, [], [chain.node], defaultDelimiter⟩
  have htext (behind : Nat) : clause.text style behind
      = keyword ++ " " ++ chain.node.text style behind :=
    Node.text_behind keyword (h behind).nonempty
  have hshows (behind : Nat) : clause.text style behind ≠ "" := by
    rw [htext]
    simp
  obtain ⟨behind, textsInFront, textsAfter, hamong⟩ := Node.text_among hshows before inFront after
  exact ⟨behind, textsInFront, textsAfter, hamong.trans (by rw [htext])⟩

theorem HasClause.of_forms {α : Type} [Assemble α Assembled] {f : Formatter} {a : α}
    {keyword : String} {chain : Conditions Assembled} {rejection : Option String}
    {children before after : List (Node Assembled)} {words words' : List String}
    (hforms : (Assemble.script a).Forms ⟨.empty, [], children, defaultDelimiter⟩ rejection)
    (hchildren : children = before ++ Clause.conditionsNodes keyword (some chain) ++ after)
    (hbefore : Open words before) (hafter : Open words' after)
    (hkeyword : keyword ∉ words ++ words')
    (hatoms : ∀ p, .atom p ∈ chain.lexemes → p.Shown f) : HasClause f a keyword chain := by
  subst hchildren
  rw [List.mem_append, not_or] at hkeyword
  constructor
  · intro root hroot
    rw [Tree.of, hforms.root] at hroot
    cases rejection with
    | some reason => cases hroot
    | none =>
        obtain rfl := Except.ok.inj hroot
        rw [List.filter_append, List.filter_append, hbefore.filter_eq_nil hkeyword.1,
          hafter.filter_eq_nil hkeyword.2]
        simp [Clause.conditionsNodes, Node.word?, Metadata.keyword, Metadata.withToken]
  · intro text htext
    cases rejection with
    | some reason =>
        rw [f.renderStatement_rejected a hforms] at htext
        cases htext
    | none =>
        have hvisible : ∀ p, .atom p ∈ chain.lexemes → p.Visible f.style :=
          fun p hp => (hatoms p hp).visible
        obtain ⟨hfail, hspells⟩ := chain.spells false hvisible
        obtain ⟨hspec, -⟩ := f.renderStatement_spec a hforms
        rw [hspec] at htext
        obtain ⟨-, rfl⟩ := Encounter.outcome_eq_ok.mp htext
        obtain ⟨behind, textsInFront, textsAfter, htext⟩ := chain.clause_among hspells keyword
          f.params.length before after
        exact ⟨textsInFront, chain.node.text f.style behind, textsAfter, htext,
          (hspells behind).writes hvisible,
          Formatter.exists_renders chain.forms hfail f.style behind⟩

section Statements

variable {f : Formatter} {chain : Conditions Assembled}

theorem Select.hasWhere {s : Select Assembled} (h : s.restriction = some chain)
    (hatoms : ∀ p, .atom p ∈ chain.lexemes → p.Shown f) :
    HasClause f s Keyword.where_ chain := by
  have hbefore := ((Open.output s).append (Open.list Keyword.from_ s.sources)).append
    (Open.joins s.joins)
  have hafter := (((Open.list Keyword.groupBy s.grouping).append
    (Open.conditions Keyword.having s.groupRestriction)).append (Open.unions s.unions)).append
      (Open.trailing s)
  refine HasClause.of_forms (s.node_eq ▸ s.forms) ?_ hbefore hafter (by decide) hatoms
  rw [← h, Select.coreNodes]
  simp only [List.append_assoc]

theorem Select.hasHaving {s : Select Assembled} (h : s.groupRestriction = some chain)
    (hatoms : ∀ p, .atom p ∈ chain.lexemes → p.Shown f) :
    HasClause f s Keyword.having chain := by
  have hbefore := (((Open.output s).append (Open.list Keyword.from_ s.sources)).append
    (Open.joins s.joins)).append ((Open.conditions Keyword.where_ s.restriction).append
      (Open.list Keyword.groupBy s.grouping))
  have hafter := (Open.unions s.unions).append (Open.trailing s)
  refine HasClause.of_forms (s.node_eq ▸ s.forms) ?_ hbefore hafter (by decide) hatoms
  rw [← h, Select.coreNodes]
  simp only [List.append_assoc]

theorem Update.hasWhere {u : Update Assembled} (h : u.restriction = some chain)
    (hatoms : ∀ p, .atom p ∈ chain.lexemes → p.Shown f) :
    HasClause f u Keyword.where_ chain := by
  have hbefore := ((Open.expression Keyword.update (some u.table)).append
    (Open.joined Keyword.set (u.assignments.map Assignment.node))).append
      (Open.list Keyword.from_ u.sources)
  have hafter := Open.list Keyword.returning u.results
  exact HasClause.of_forms u.forms (h ▸ rfl) hbefore hafter (by decide) hatoms

theorem Delete.hasWhere {d : Delete Assembled} (h : d.restriction = some chain)
    (hatoms : ∀ p, .atom p ∈ chain.lexemes → p.Shown f) :
    HasClause f d Keyword.where_ chain := by
  have hbefore := (Open.expression Keyword.deleteFrom (some d.table)).append
    (Open.list Keyword.using_ d.sources)
  have hafter := Open.list Keyword.returning d.results
  exact HasClause.of_forms d.forms (h ▸ rfl) hbefore hafter (by decide) hatoms

end Statements

end SqlBuilder
