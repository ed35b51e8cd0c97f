import SqlBuilder.Proofs.Nesting.Items
import SqlBuilder.Proofs.Rendering.Numbering

/-!
# The order of the items is that of the text

A node meets its items one after the other (`Node.encounters_eq`). A plain
node, with nothing but words for tokens all the way down, also writes them in
that order, as long as the subqueries among them do (`Node.orderly`). The
nodes of builders are plain (`Builder.plain_node`).
-/

namespace SqlBuilder

variable {σ : Type}

/-! ## Meeting items -/

/-- What rendering meets at an item: the value, or all that the subquery meets. -/
def Item.encounters : Item Assembled → List Encounter
  | .value v => Encounter.ofValue v
  | .nested statement => statement.encounters

mutual

/-- Rendering meets the items of a node in their order, and nothing else. A subquery is met as a
whole, so that the recursion ends at it. -/
theorem Node.encounters_eq : ∀ n : Node Assembled,
    n.encounters = n.items.flatMap Item.encounters
  | ⟨⟨token, position, parentheses, joinNodes⟩, leaves, children, delimiter⟩ => by
      rw [Node.encounters, Node.items, List.flatMap_append, List.flatMap_append,
        Token.encountersAll_eq leaves, Token.encountersOption_eq token,
        Node.encountersAll_eq children]

theorem Node.encountersAll_eq : ∀ nodes : List (Node Assembled),
    Node.encountersAll nodes = (Node.itemsAll nodes).flatMap Item.encounters
  | [] => rfl
  | node :: rest => by
      rw [Node.encountersAll, Node.itemsAll, List.flatMap_append, node.encounters_eq,
        Node.encountersAll_eq rest]

theorem Token.encountersOption_eq : ∀ token : Option (Token Assembled),
    Token.encountersOption token
      = (token.toList.flatMap Token.items).flatMap Item.encounters
  | none => rfl
  | some token => by
      rw [Token.encountersOption, Option.toList_some, List.flatMap_singleton,
        token.encounters_eq]

theorem Token.encounters_eq : ∀ token : Token Assembled,
    token.encounters = token.items.flatMap Item.encounters
  | .keyword _ => rfl
  | .operator _ => rfl
  | .expression e => e.encounters_eq

theorem Token.encountersAll_eq : ∀ tokens : List (Token Assembled),
    Token.encountersAll tokens = (tokens.flatMap Token.items).flatMap Item.encounters
  | [] => rfl
  | token :: rest => by
      rw [Token.encountersAll, List.flatMap_cons, List.flatMap_append, token.encounters_eq,
        Token.encountersAll_eq rest]

theorem Expression.encounters_eq : ∀ e : Expression Assembled,
    e.encounters = e.items.flatMap Item.encounters
  | .text _ _ _ => rfl
  | .value v _ => (List.flatMap_singleton Item.encounters (.value v)).symm
  | .list elements _ => Expression.encountersAll_eq elements
  | .array elements _ => Expression.encountersAll_eq elements
  | .call _ arguments _ => Expression.encountersAll_eq arguments
  | .nested statement _ => (List.flatMap_singleton Item.encounters (.nested statement)).symm

theorem Expression.encountersAll_eq : ∀ es : List (Expression Assembled),
    Expression.encountersAll es = (Expression.itemsAll es).flatMap Item.encounters
  | [] => rfl
  | e :: rest => by
      rw [Expression.encountersAll, Expression.itemsAll, List.flatMap_append, e.encounters_eq,
        Expression.encountersAll_eq rest]

end

/-! ## Plain nodes -/

/-- No token of the node or of a node below it has items. -/
inductive Node.Plain : Node σ → Prop where
  | intro {m : Metadata σ} {leaves : List (Token σ)} {children : List (Node σ)}
      {delimiter : String} (token : m.token.toList.flatMap Token.items = [])
      (below : ∀ child ∈ children, child.Plain) : Plain ⟨m, leaves, children, delimiter⟩

mutual

/-- An expression with orderly subqueries is orderly: its text runs through its parts in the order
in which they are met. -/
theorem Expression.orderly : ∀ e : Expression Assembled,
    (∀ a, Item.nested a ∈ e.items → a.Orderly) → e.Orderly
  | .text _ _ _, _ => trivial
  | .value _ _, _ => trivial
  | .list elements _, h => Expression.orderlyAll elements h
  | .array elements _, h => Expression.orderlyAll elements h
  | .call _ arguments _, h => Expression.orderlyAll arguments h
  | .nested statement _, h => h statement (List.mem_singleton_self _)

theorem Expression.orderlyAll : ∀ es : List (Expression Assembled),
    (∀ a, Item.nested a ∈ Expression.itemsAll es → a.Orderly) → Expression.OrderlyAll es
  | [], _ => trivial
  | e :: rest, h =>
      ⟨e.orderly fun a ha => h a (List.mem_append_left _ ha),
        Expression.orderlyAll rest fun a ha => h a (List.mem_append_right _ ha)⟩

end

theorem Token.orderlyAll : ∀ tokens : List (Token Assembled),
    (∀ a, Item.nested a ∈ tokens.flatMap Token.items → a.Orderly) → Token.OrderlyAll tokens
  | [], _ => trivial
  | .keyword _ :: rest, h => ⟨trivial, Token.orderlyAll rest h⟩
  | .operator _ :: rest, h => ⟨trivial, Token.orderlyAll rest h⟩
  | .expression e :: rest, h =>
      ⟨e.orderly fun a ha => h a (List.mem_append_left _ ha),
        Token.orderlyAll rest fun a ha => h a (List.mem_append_right _ ha)⟩

mutual

/-- A plain node writes its items in the order in which it meets them. Being plain is what is
needed: a token is met behind the leaves but may be written in front of them. -/
theorem Node.orderly : ∀ n : Node Assembled, n.Plain →
    (∀ a, Item.nested a ∈ n.items → a.Orderly) → n.Orderly
  | ⟨⟨token, _, _, _⟩, leaves, children, _⟩, ⟨htoken, hbelow⟩, h => by
      have hmet : Token.encountersOption token = [] := by
        rw [Token.encountersOption_eq, htoken, List.flatMap_nil]
      refine ⟨hmet, Token.orderlyAll leaves fun a ha => h a ?_,
        Node.orderlyAll children hbelow fun a ha => h a ?_⟩
      · exact List.mem_append_left _ (List.mem_append_left _ ha)
      · exact List.mem_append_right _ ha

theorem Node.orderlyAll : ∀ nodes : List (Node Assembled), (∀ n ∈ nodes, n.Plain) →
    (∀ a, Item.nested a ∈ Node.itemsAll nodes → a.Orderly) → Node.OrderlyAll nodes
  | [], _, _ => trivial
  | node :: rest, hplain, h =>
      ⟨node.orderly (hplain node (List.mem_cons_self ..))
          fun a ha => h a (List.mem_append_left _ ha),
        Node.orderlyAll rest (fun n hn => hplain n (List.mem_cons_of_mem _ hn))
          fun a ha => h a (List.mem_append_right _ ha)⟩

end

/-! ## Builders have plain nodes -/

/-- A word with leaves around it, and nothing below. -/
theorem Node.plain_leaf {m : Metadata σ} (h : m.token.toList.flatMap Token.items = [])
    (leaves : List (Token σ)) (delimiter : String) : Plain ⟨m, leaves, [], delimiter⟩ :=
  .intro h fun _ hchild => absurd hchild List.not_mem_nil

/-- A word with leaves around it, and one plain node below. -/
theorem Node.plain_around {m : Metadata σ} (h : m.token.toList.flatMap Token.items = [])
    {n : Node σ} (hn : n.Plain) (leaves : List (Token σ)) (delimiter : String) :
    Plain ⟨m, leaves, [n], delimiter⟩ :=
  .intro h fun _ hchild => List.mem_singleton.mp hchild ▸ hn

theorem Predicate.plain_operationNode (operator : String) (es : List (Expression σ)) :
    (Predicate.operationNode operator es).Plain :=
  Node.plain_leaf rfl _ _

mutual

/-- The operands of a predicate are leaves, so that all the tokens of a chain are words. -/
theorem Conditions.plain_chainNode (parentheses : Bool) : ∀ c : Conditions σ,
    (c.chainNode parentheses).Plain
  | ⟨predicate, attached⟩ =>
      .intro rfl (List.forall_mem_cons.mpr ⟨predicate.plain_node, Attached.plain_nodes attached⟩)

theorem Predicate.plain_node : ∀ p : Predicate σ, p.node.Plain
  | .compare left operator right => Predicate.plain_operationNode operator [left, right]
  | .trailing operand operator => Predicate.plain_operationNode operator [operand]
  | .between left low high _ =>
      Node.plain_around rfl (Predicate.plain_operationNode Keyword.and [low, high]) _ _
  | .existence _ _ => Node.plain_leaf rfl _ _
  | .membership left right _ => Predicate.plain_operationNode _ [left, right]
  | .quantified left operator quantifier right =>
      Predicate.plain_operationNode operator [left, .call quantifier.keyword [right]]
  | .group conditions => by
      rw [Predicate.node]
      exact conditions.plain_chainNode true

theorem Attached.plain_nodes : ∀ as : List (Attached σ), ∀ n ∈ Attached.nodes as, n.Plain
  | [], _, h => absurd h List.not_mem_nil
  | ⟨_, conditions⟩ :: rest, n, h => by
      rw [Attached.nodes, List.mem_cons] at h
      rcases h with rfl | h
      · exact Node.plain_around rfl (conditions.plain_chainNode _) _ _
      · exact Attached.plain_nodes rest n h

end

namespace Clause

theorem plain_listNodes (keyword : String) (es : List (Expression σ)) :
    ∀ n ∈ listNodes keyword es, n.Plain := by
  intro n hn
  rw [eq_of_mem_listNodes hn]
  exact Node.plain_leaf rfl _ _

theorem plain_expressionNodes (keyword : String) (e : Option (Expression σ)) :
    ∀ n ∈ expressionNodes keyword e, n.Plain := by
  intro n hn
  obtain ⟨e', -, rfl⟩ := List.mem_map.mp hn
  exact Node.plain_leaf rfl _ _

theorem plain_conditionsNodes (keyword : String) (c : Option (Conditions σ)) :
    ∀ n ∈ conditionsNodes keyword c, n.Plain := by
  intro n hn
  obtain ⟨c', -, rfl⟩ := List.mem_map.mp hn
  exact Node.plain_around rfl (c'.plain_chainNode false) _ _

theorem plain_joinedNode (keyword : String) {nodes : List (Node σ)}
    (h : ∀ n ∈ nodes, n.Plain) : (joinedNode keyword nodes).Plain :=
  .intro rfl h

theorem plain_bareNode (keyword : String) : (bareNode keyword : Node σ).Plain :=
  Node.plain_leaf rfl _ _

end Clause

/-- Each part of a list has a node of its own. -/
theorem Node.plain_map {α : Type} {built : α → Node σ} (h : ∀ a, (built a).Plain) (as : List α) :
    ∀ n ∈ as.map built, n.Plain := by
  intro n hn
  obtain ⟨a, -, rfl⟩ := List.mem_map.mp hn
  exact h a

theorem Node.plain_append {before after : List (Node σ)} (hbefore : ∀ n ∈ before, n.Plain)
    (hafter : ∀ n ∈ after, n.Plain) : ∀ n ∈ before ++ after, n.Plain :=
  List.forall_mem_append.mpr ⟨hbefore, hafter⟩

theorem Node.plain_singleton {n : Node σ} (h : n.Plain) : ∀ child ∈ [n], child.Plain :=
  List.forall_mem_singleton.mpr h

open Node (plain_append plain_singleton plain_map)

theorem Join.plain_node (j : Join σ) : j.node.Plain :=
  .intro rfl (Clause.plain_conditionsNodes _ _)

theorem OrderElement.plain_node (o : OrderElement σ) : o.node.Plain := Node.plain_leaf rfl _ _

theorem OrderElement.plain_clauseNodes (elements : List (OrderElement σ)) :
    ∀ n ∈ clauseNodes elements, n.Plain := by
  intro n hn
  rw [eq_of_mem_clauseNodes hn]
  exact Clause.plain_joinedNode _ (plain_map plain_node elements)

/-- The clauses in front of the unions have a word for a token each. -/
theorem Select.plain_coreNodes (s : Select σ) : ∀ n ∈ s.coreNodes, n.Plain := by
  have houtput : ∀ n ∈ [s.outputNode], n.Plain := plain_singleton (Node.plain_leaf rfl _ _)
  have hsources := Clause.plain_listNodes Keyword.from_ s.sources
  have hjoins := plain_map Join.plain_node s.joins
  have hwhere := Clause.plain_conditionsNodes Keyword.where_ s.restriction
  have hgrouping := Clause.plain_listNodes Keyword.groupBy s.grouping
  have hhaving := Clause.plain_conditionsNodes Keyword.having s.groupRestriction
  exact plain_append (plain_append (plain_append (plain_append (plain_append houtput hsources)
    hjoins) hwhere) hgrouping) hhaving

theorem Select.plain_trailingNodes (s : Select σ) : ∀ n ∈ s.trailingNodes, n.Plain :=
  plain_append (plain_append (OrderElement.plain_clauseNodes s.ordering)
    (Clause.plain_expressionNodes _ _)) (Clause.plain_expressionNodes _ _)

mutual

/-- Members of unions are below the words that join them, and are plain in turn. -/
theorem Select.plain_nestedNode (parentheses : Bool) : ∀ s : Select σ,
    (s.nestedNode parentheses).Plain
  | ⟨_, _, _, _, _, _, _, unions, _, _, _⟩ =>
      .intro rfl (plain_append (plain_append (Select.plain_coreNodes _)
        (UnionMember.plain_nodes unions)) (Select.plain_trailingNodes _))

theorem UnionMember.plain_nodes : ∀ members : List (UnionMember σ),
    ∀ n ∈ UnionMember.nodes members, n.Plain
  | [], _, h => absurd h List.not_mem_nil
  | ⟨_, select⟩ :: rest, n, h => by
      rw [UnionMember.nodes, List.mem_cons] at h
      rcases h with rfl | h
      · exact Node.plain_around rfl (select.plain_nestedNode _) _ _
      · exact UnionMember.plain_nodes rest n h

end

/-- The rows are leaves behind a word; a SELECT as the source stands in the same place. -/
theorem Insert.plain_sourceNodes (i : Insert σ) : ∀ n ∈ i.sourceNodes, n.Plain := by
  unfold Insert.sourceNodes
  split
  · exact plain_singleton (Clause.plain_bareNode _)
  · exact Clause.plain_listNodes _ _
  · exact plain_singleton (Select.plain_nestedNode false _)

theorem Insert.plain_node (i : Insert σ) : i.node.Plain := by
  have htarget : ∀ n ∈ [i.targetNode], n.Plain := plain_singleton (Node.plain_leaf rfl _ _)
  have hconflicts : ∀ n ∈ (if i.skipsConflicts then
      [Clause.bareNode (σ := σ) Keyword.onConflictDoNothing] else []), n.Plain := by
    split
    · exact plain_singleton (Clause.plain_bareNode _)
    · exact fun _ h => absurd h List.not_mem_nil
  exact .intro rfl (plain_append (plain_append (plain_append htarget i.plain_sourceNodes)
    hconflicts) (Clause.plain_listNodes _ _))

theorem Update.plain_node (u : Update σ) : u.node.Plain := by
  have htable := Clause.plain_expressionNodes Keyword.update (some u.table)
  have hset := Clause.plain_joinedNode Keyword.set
    (plain_map (fun a : Assignment σ => Predicate.plain_operationNode "=" [a.column, a.value])
      u.assignments)
  exact .intro rfl (plain_append (plain_append (plain_append (plain_append htable
    (plain_singleton hset)) (Clause.plain_listNodes _ _)) (Clause.plain_conditionsNodes _ _))
    (Clause.plain_listNodes _ _))

theorem Delete.plain_node (d : Delete σ) : d.node.Plain := by
  have htable := Clause.plain_expressionNodes Keyword.deleteFrom (some d.table)
  exact .intro rfl (plain_append (plain_append (plain_append htable
    (Clause.plain_listNodes _ _)) (Clause.plain_conditionsNodes _ _))
    (Clause.plain_listNodes _ _))

theorem CommonTableExpression.plain_node (c : CommonTableExpression σ) : c.node.Plain :=
  Predicate.plain_operationNode _ _

/-- The tables of a WITH clause are joined below one word, each a node with the word AS. -/
theorem With.plain_expressionNodes (w : With σ) : ∀ n ∈ w.expressionNodes, n.Plain := by
  intro n hn
  unfold With.expressionNodes at hn
  split at hn
  · exact absurd hn List.not_mem_nil
  · rw [List.mem_singleton.mp hn]
    exact Clause.plain_joinedNode _ (plain_map CommonTableExpression.plain_node w.expressions)

/-- A builder has values and subqueries among its leaves alone, whatever it is. -/
theorem Builder.plain_node : ∀ b : Builder σ, b.node.Plain
  | .select s => s.plain_nestedNode false
  | .insert i => i.plain_node
  | .update u => u.plain_node
  | .delete d => d.plain_node
  | .with_ _ _ none =>
      .intro rfl (plain_append (With.plain_expressionNodes _) fun _ h =>
        absurd h List.not_mem_nil)
  | .with_ _ _ (some body) =>
      .intro rfl (plain_append (With.plain_expressionNodes _) (plain_singleton body.plain_node))
  | .commonTable c => c.plain_node
  | .join j => j.plain_node
  | .orderElement o => o.plain_node
  | .conditions c => c.plain_chainNode false

end SqlBuilder
