import SqlBuilder.Proofs.Nesting.Builder

/-!
# Document order

The values and subqueries of a builder, read off its own fields in the order
of SQL's clauses, and those of a node, in the order in which rendering visits
them: leaves, token, children. The two are the same list for every builder
(`Builder.items_node`), though the node knows nothing of clauses.
-/

namespace SqlBuilder

variable {σ τ : Type}

/-- What stands in a statement as a leaf of its own: a value, or a subquery. -/
inductive Item (σ : Type) where
  | value (v : Value)
  | nested (statement : σ)

def Item.map (f : σ → τ) : Item σ → Item τ
  | .value v => .value v
  | .nested statement => .nested (f statement)

/-! ## Expressions and nodes -/

mutual

/-- The items of an expression; a subquery is one item, not looked into. -/
def Expression.items : Expression σ → List (Item σ)
  | .text _ _ _ => []
  | .value v _ => [.value v]
  | .list elements _ => Expression.itemsAll elements
  | .array elements _ => Expression.itemsAll elements
  | .call _ arguments _ => Expression.itemsAll arguments
  | .nested statement _ => [.nested statement]

def Expression.itemsAll : List (Expression σ) → List (Item σ)
  | [] => []
  | e :: rest => e.items ++ Expression.itemsAll rest

end

def Token.items : Token σ → List (Item σ)
  | .keyword _ => []
  | .operator _ => []
  | .expression e => e.items

mutual

/-- The items of a node in the order of visits: a token comes behind the leaves, wherever it is
written. -/
def Node.items : Node σ → List (Item σ)
  | ⟨⟨token, _, _, _⟩, leaves, children, _⟩ =>
      leaves.flatMap Token.items ++ token.toList.flatMap Token.items ++ Node.itemsAll children

def Node.itemsAll : List (Node σ) → List (Item σ)
  | [] => []
  | node :: rest => node.items ++ Node.itemsAll rest

end

@[simp] theorem Expression.itemsAll_eq_flatMap (es : List (Expression σ)) :
    Expression.itemsAll es = es.flatMap Expression.items := by
  induction es with
  | nil => rfl
  | cons e rest ih => rw [Expression.itemsAll, ih, List.flatMap_cons]

@[simp] theorem Node.itemsAll_eq_flatMap (nodes : List (Node σ)) :
    Node.itemsAll nodes = nodes.flatMap Node.items := by
  induction nodes with
  | nil => rfl
  | cons n rest ih => rw [Node.itemsAll, ih, List.flatMap_cons]

/-! ## The fields of builders -/

mutual

/-- The operands of a predicate from left to right, then the attached chains. -/
def Conditions.items : Conditions σ → List (Item σ)
  | ⟨predicate, attached⟩ => predicate.items ++ Attached.items attached

def Predicate.items : Predicate σ → List (Item σ)
  | .compare left _ right => left.items ++ right.items
  | .trailing operand _ => operand.items
  | .between left low high _ => left.items ++ low.items ++ high.items
  | .existence operand _ => operand.items
  | .membership left right _ => left.items ++ right.items
  | .quantified left _ _ right => left.items ++ right.items
  | .group conditions => conditions.items

def Attached.items : List (Attached σ) → List (Item σ)
  | [] => []
  | ⟨_, conditions⟩ :: rest => conditions.items ++ Attached.items rest

end

def Join.items (j : Join σ) : List (Item σ) :=
  j.table.items ++ j.condition.toList.flatMap Conditions.items

def OrderElement.items (o : OrderElement σ) : List (Item σ) := o.key.items

mutual

/-- The fields in the order of the clauses: unions stand between HAVING and ORDER BY. -/
def Select.items : Select σ → List (Item σ)
  | ⟨_, outputs, sources, joins, restriction, grouping, groupRestriction, unions, ordering,
      rowLimit, rowOffset⟩ =>
      outputs.flatMap Expression.items
        ++ sources.flatMap Expression.items
        ++ joins.flatMap Join.items
        ++ restriction.toList.flatMap Conditions.items
        ++ grouping.flatMap Expression.items
        ++ groupRestriction.toList.flatMap Conditions.items
        ++ UnionMember.items unions
        ++ ordering.flatMap OrderElement.items
        ++ rowLimit.toList.flatMap Expression.items
        ++ rowOffset.toList.flatMap Expression.items

def UnionMember.items : List (UnionMember σ) → List (Item σ)
  | [] => []
  | ⟨_, select⟩ :: rest => select.items ++ UnionMember.items rest

end

/-- The rows one after the other, or the fields of the SELECT. -/
def InsertSource.items : InsertSource σ → List (Item σ)
  | .rows given => given.flatMap (·.flatMap Expression.items)
  | .select s => s.items

def Insert.items (i : Insert σ) : List (Item σ) :=
  i.table.items ++ i.targets.flatMap Expression.items ++ i.source.items
    ++ i.results.flatMap Expression.items

/-- The column comes before its value. -/
def Assignment.items (a : Assignment σ) : List (Item σ) := a.column.items ++ a.value.items

def Update.items (u : Update σ) : List (Item σ) :=
  u.table.items
    ++ u.assignments.flatMap Assignment.items
    ++ u.sources.flatMap Expression.items
    ++ u.restriction.toList.flatMap Conditions.items
    ++ u.results.flatMap Expression.items

def Delete.items (d : Delete σ) : List (Item σ) :=
  d.table.items
    ++ d.sources.flatMap Expression.items
    ++ d.restriction.toList.flatMap Conditions.items
    ++ d.results.flatMap Expression.items

/-- The values and subqueries of a builder in document order. -/
def Builder.items : Builder σ → List (Item σ)
  | .select s => s.items
  | .insert i => i.items
  | .update u => u.items
  | .delete d => d.items
  | .with_ _ expressions none => expressions.map (.nested ·.statement)
  | .with_ _ expressions (some body) => expressions.map (.nested ·.statement) ++ body.items
  | .commonTable c => [.nested c.statement]
  | .join j => j.items
  | .orderElement o => o.items
  | .conditions c => c.items

/-! ## A node visits what the fields hold, in their order -/

/-- What a node visits if its own token is a word. -/
theorem Node.items_of_word {m : Metadata σ} (h : m.token.toList.flatMap Token.items = [])
    (leaves : List (Token σ)) (children : List (Node σ)) (delimiter : String) :
    Node.items ⟨m, leaves, children, delimiter⟩
      = leaves.flatMap Token.items ++ children.flatMap Node.items := by
  obtain ⟨token, position, parentheses, joinNodes⟩ := m
  rw [Node.items, h, List.append_nil, Node.itemsAll_eq_flatMap]

/-- Leaves that are expressions have the items of these. -/
theorem flatMap_items_expression (es : List (Expression σ)) :
    (es.map Token.expression).flatMap Token.items = es.flatMap Expression.items := by
  rw [List.flatMap_map]
  rfl

@[simp] theorem Predicate.items_operationNode (operator : String) (es : List (Expression σ)) :
    (Predicate.operationNode operator es).items = es.flatMap Expression.items := by
  rw [Predicate.operationNode, Node.items_of_word rfl, flatMap_items_expression,
    List.flatMap_nil, List.append_nil]

mutual

/-- The parentheses of a chain do not change what it visits. -/
theorem Conditions.items_chainNode (parentheses : Bool) : ∀ c : Conditions σ,
    (c.chainNode parentheses).items = c.items
  | ⟨predicate, attached⟩ => by
      rw [Conditions.chainNode, Node.items_of_word rfl, List.flatMap_cons, predicate.items_node,
        Attached.items_nodes attached]
      rfl

theorem Predicate.items_node : ∀ p : Predicate σ, p.node.items = p.items
  | .compare left operator right => by
      simp [Predicate.node, Predicate.items]
  | .trailing operand operator => by
      simp [Predicate.node, Predicate.items]
  | .between left low high negated => by
      rw [Predicate.node, Node.items_of_word rfl]
      simp [Predicate.items, Token.items]
  | .existence operand negated => by
      rw [Predicate.node, Node.items_of_word rfl]
      simp [Predicate.items, Token.items]
  | .membership left right negated => by
      simp [Predicate.node, Predicate.items]
  | .quantified left operator quantifier right => by
      simp [Predicate.node, Predicate.items, Expression.items]
  | .group conditions => by
      rw [Predicate.node, conditions.items_chainNode true, Predicate.items]

theorem Attached.items_nodes : ∀ as : List (Attached σ),
    (Attached.nodes as).flatMap Node.items = Attached.items as
  | [] => rfl
  | ⟨connector, conditions⟩ :: rest => by
      rw [Attached.nodes, List.flatMap_cons, Node.items_of_word rfl, List.flatMap_singleton,
        conditions.items_chainNode, Attached.items_nodes rest]
      rfl

end

@[simp] theorem Conditions.items_node (c : Conditions σ) : c.node.items = c.items :=
  c.items_chainNode false

namespace Clause

/-- A clause that has been left out has no items, just as its empty list. -/
@[simp] theorem items_listNodes (keyword : String) (es : List (Expression σ)) :
    (listNodes keyword es).flatMap Node.items = es.flatMap Expression.items := by
  unfold listNodes
  split
  · rename_i h
    rw [List.isEmpty_iff.mp h]
    rfl
  · rw [List.flatMap_singleton, Node.items_of_word rfl, flatMap_items_expression,
      List.flatMap_nil, List.append_nil]

@[simp] theorem items_expressionNodes (keyword : String) (e : Option (Expression σ)) :
    (expressionNodes keyword e).flatMap Node.items = e.toList.flatMap Expression.items := by
  cases e with
  | none => rfl
  | some e =>
      rw [expressionNodes, Option.toList_some, List.map_singleton, List.flatMap_singleton,
        Node.items_of_word rfl]
      simp [Token.items]

@[simp] theorem items_conditionsNodes (keyword : String) (c : Option (Conditions σ)) :
    (conditionsNodes keyword c).flatMap Node.items = c.toList.flatMap Conditions.items := by
  cases c with
  | none => rfl
  | some c =>
      rw [conditionsNodes, Option.toList_some, List.map_singleton, List.flatMap_singleton,
        Node.items_of_word rfl]
      simp

/-- Nodes below a word are visited one after the other. -/
@[simp] theorem items_joinedNode (keyword : String) (nodes : List (Node σ)) :
    (joinedNode keyword nodes).items = nodes.flatMap Node.items := by
  rw [joinedNode, Node.items_of_word rfl]
  rfl

@[simp] theorem items_bareNode (keyword : String) :
    (bareNode keyword : Node σ).items = [] := by
  rw [bareNode, Node.items_of_word rfl]
  rfl

end Clause

@[simp] theorem Assignment.items_node (a : Assignment σ) : a.node.items = a.items := by
  simp [Assignment.node, Assignment.items]

@[simp] theorem Join.items_node (j : Join σ) : j.node.items = j.items := by
  rw [Join.node, Node.items_of_word rfl]
  simp [Join.items, Token.items]

@[simp] theorem OrderElement.items_node (o : OrderElement σ) : o.node.items = o.items := by
  obtain ⟨key, direction, nulls⟩ := o
  rw [OrderElement.node, Node.items_of_word rfl]
  cases nulls <;> simp [OrderElement.items, Token.items]

/-- The keys of ORDER BY, in their order. -/
theorem OrderElement.items_clauseNodes (elements : List (OrderElement σ)) :
    (OrderElement.clauseNodes elements).flatMap Node.items
      = elements.flatMap OrderElement.items := by
  unfold OrderElement.clauseNodes
  split
  · rename_i h
    rw [List.isEmpty_iff.mp h]
    rfl
  · rw [List.flatMap_singleton, Clause.items_joinedNode, List.flatMap_map]
    simp

/-- The star that stands for no outputs is a text, and no item. -/
theorem Select.items_outputNode (s : Select σ) :
    s.outputNode.items = s.outputs.flatMap Expression.items := by
  rw [Select.outputNode, Node.items_of_word rfl]
  cases h : s.outputs with
  | nil => rfl
  | cons e rest =>
      rw [List.isEmpty_cons, if_neg Bool.false_ne_true, flatMap_items_expression]
      simp

mutual

/-- The parts of a SELECT and its unions are visited in the order of its clauses. -/
theorem Select.items_nestedNode (parentheses : Bool) : ∀ s : Select σ,
    (s.nestedNode parentheses).items = s.items
  | ⟨_, outputs, sources, joins, restriction, grouping, groupRestriction, unions, ordering,
      rowLimit, rowOffset⟩ => by
      rw [Select.nestedNode, Node.items_of_word rfl]
      simp [Select.coreNodes, Select.trailingNodes, Select.items, Select.items_outputNode,
        OrderElement.items_clauseNodes, UnionMember.items_nodes unions, List.flatMap_map]

theorem UnionMember.items_nodes : ∀ members : List (UnionMember σ),
    (UnionMember.nodes members).flatMap Node.items = UnionMember.items members
  | [] => rfl
  | ⟨keepsDuplicates, select⟩ :: rest => by
      rw [UnionMember.nodes, List.flatMap_cons, Node.items_of_word rfl, List.flatMap_singleton,
        select.items_nestedNode, UnionMember.items_nodes rest]
      rfl

end

/-- Without rows there is a word in their place, which has no items either. -/
theorem Insert.items_node (i : Insert σ) : i.node.items = i.items := by
  obtain ⟨table, targets, source, skipsConflicts, results⟩ := i
  have htarget : (Insert.targetNode ⟨table, targets, source, skipsConflicts, results⟩).items
      = table.items ++ targets.flatMap Expression.items := by
    rw [Insert.targetNode, Node.items_of_word rfl]
    cases targets <;> simp [Token.items, Expression.items]
  have hsource : (Insert.sourceNodes ⟨table, targets, source, skipsConflicts, results⟩).flatMap
      Node.items = source.items := by
    rcases source with (_ | ⟨row, rows⟩) | s
    · simp [Insert.sourceNodes, InsertSource.items]
    · simp [Insert.sourceNodes, InsertSource.items, Expression.items, List.flatMap_map]
    · simp [Insert.sourceNodes, InsertSource.items, Select.node, Select.items_nestedNode]
  rw [Insert.node, Node.items_of_word rfl]
  cases skipsConflicts <;> simp [Insert.items, htarget, hsource]

theorem Update.items_node (u : Update σ) : u.node.items = u.items := by
  rw [Update.node, Node.items_of_word rfl]
  simp [Update.items, List.flatMap_map]

theorem Delete.items_node (d : Delete σ) : d.node.items = d.items := by
  rw [Delete.node, Node.items_of_word rfl]
  simp [Delete.items]

@[simp] theorem CommonTableExpression.items_node (c : CommonTableExpression σ) :
    c.node.items = [.nested c.statement] := by
  have hheader : c.header.items = [] := by
    unfold CommonTableExpression.header
    split
    · rfl
    · simp [Expression.items, Expression.raw, List.flatMap_map]
  simp [CommonTableExpression.node, hheader, Expression.items]

/-- Each table has one item, its statement: its name and columns are texts. -/
theorem With.items_expressionNodes (w : With σ) :
    w.expressionNodes.flatMap Node.items = w.expressions.map (.nested ·.statement) := by
  unfold With.expressionNodes
  split
  · rename_i h
    rw [List.isEmpty_iff.mp h]
    rfl
  · simp [List.flatMap_map, ← List.map_eq_flatMap]

/-- The node of a builder visits what its fields hold, in document order. -/
theorem Builder.items_node : ∀ b : Builder σ, b.node.items = b.items
  | .select s => s.items_nestedNode false
  | .insert i => i.items_node
  | .update u => u.items_node
  | .delete d => d.items_node
  | .with_ isRecursive expressions none => by
      rw [Builder.node, Node.items_of_word rfl]
      simp [Builder.items, With.items_expressionNodes]
  | .with_ isRecursive expressions (some body) => by
      rw [Builder.node, Node.items_of_word rfl]
      simp [Builder.items, With.items_expressionNodes, body.items_node]
  | .commonTable c => c.items_node
  | .join j => j.items_node
  | .orderElement o => o.items_node
  | .conditions c => c.items_node

/-! ## Other subqueries, other items -/

section Map

variable (f : σ → τ)

/-- Items of parts, whatever the parts are. -/
theorem flatMap_items_map {α β : Type} {itemsOf : α → List (Item σ)}
    {itemsOf' : β → List (Item τ)} {change : α → β}
    (h : ∀ a, itemsOf' (change a) = (itemsOf a).map (Item.map f)) (as : List α) :
    (as.map change).flatMap itemsOf' = (as.flatMap itemsOf).map (Item.map f) := by
  rw [List.flatMap_map, List.map_flatMap]
  exact congrArg (List.flatMap · as) (funext h)

theorem toList_items_map {α β : Type} {itemsOf : α → List (Item σ)}
    {itemsOf' : β → List (Item τ)} {change : α → β}
    (h : ∀ a, itemsOf' (change a) = (itemsOf a).map (Item.map f)) (a : Option α) :
    (a.map change).toList.flatMap itemsOf' = (a.toList.flatMap itemsOf).map (Item.map f) := by
  rw [Option.toList_map]
  exact flatMap_items_map f h a.toList

mutual

/-- Replacing subqueries replaces the items that are subqueries, in their places. -/
theorem Expression.items_map : ∀ e : Expression σ, (e.map f).items = e.items.map (Item.map f)
  | .text _ _ _ => rfl
  | .value _ _ => rfl
  | .list elements _ => Expression.itemsAll_map elements
  | .array elements _ => Expression.itemsAll_map elements
  | .call _ arguments _ => Expression.itemsAll_map arguments
  | .nested _ _ => rfl

theorem Expression.itemsAll_map : ∀ es : List (Expression σ),
    Expression.itemsAll (Expression.mapAll f es) = (Expression.itemsAll es).map (Item.map f)
  | [] => rfl
  | e :: rest => by
      rw [Expression.mapAll, Expression.itemsAll, Expression.itemsAll, List.map_append,
        e.items_map, Expression.itemsAll_map rest]

end

mutual

theorem Conditions.items_map : ∀ c : Conditions σ, (c.map f).items = c.items.map (Item.map f)
  | ⟨predicate, attached⟩ => by
      rw [Conditions.map, Conditions.items, Conditions.items, List.map_append,
        predicate.items_map, Attached.items_mapAll attached]

theorem Predicate.items_map : ∀ p : Predicate σ, (p.map f).items = p.items.map (Item.map f)
  | .compare left operator right => by
      simp [Predicate.map, Predicate.items, Expression.items_map]
  | .trailing operand operator => by
      simp [Predicate.map, Predicate.items, Expression.items_map]
  | .between left low high negated => by
      simp [Predicate.map, Predicate.items, Expression.items_map]
  | .existence operand negated => operand.items_map f
  | .membership left right negated => by
      simp [Predicate.map, Predicate.items, Expression.items_map]
  | .quantified left operator quantifier right => by
      simp [Predicate.map, Predicate.items, Expression.items_map]
  | .group conditions => by
      rw [Predicate.map, Predicate.items, Predicate.items, conditions.items_map]

theorem Attached.items_mapAll : ∀ as : List (Attached σ),
    Attached.items (Attached.mapAll f as) = (Attached.items as).map (Item.map f)
  | [] => rfl
  | ⟨connector, conditions⟩ :: rest => by
      rw [Attached.mapAll, Attached.items, Attached.items, List.map_append,
        conditions.items_map, Attached.items_mapAll rest]

end

theorem Join.items_map (j : Join σ) : (j.map f).items = j.items.map (Item.map f) := by
  rw [Join.map, Join.items, Join.items, List.map_append, j.table.items_map f,
    toList_items_map f (Conditions.items_map f)]

theorem OrderElement.items_map (o : OrderElement σ) :
    (o.map f).items = o.items.map (Item.map f) :=
  o.key.items_map f

mutual

/-- As for expressions, clause by clause. -/
theorem Select.items_map : ∀ s : Select σ, (s.map f).items = s.items.map (Item.map f)
  | ⟨_, outputs, sources, joins, restriction, grouping, groupRestriction, unions, ordering,
      rowLimit, rowOffset⟩ => by
      simp only [Select.map, Select.items, List.map_append,
        flatMap_items_map f (Expression.items_map f), flatMap_items_map f (Join.items_map f),
        toList_items_map f (Expression.items_map f), toList_items_map f (Conditions.items_map f),
        UnionMember.items_mapAll unions,
        flatMap_items_map f (OrderElement.items_map f)]

theorem UnionMember.items_mapAll : ∀ members : List (UnionMember σ),
    UnionMember.items (UnionMember.mapAll f members)
      = (UnionMember.items members).map (Item.map f)
  | [] => rfl
  | ⟨keepsDuplicates, select⟩ :: rest => by
      rw [UnionMember.mapAll, UnionMember.items, UnionMember.items, List.map_append,
        select.items_map, UnionMember.items_mapAll rest]

end

theorem InsertSource.items_map : ∀ source : InsertSource σ,
    (source.map f).items = source.items.map (Item.map f)
  | .rows given =>
      flatMap_items_map f (flatMap_items_map f (Expression.items_map f)) given
  | .select s => s.items_map f

theorem Insert.items_map (i : Insert σ) : (i.map f).items = i.items.map (Item.map f) := by
  simp only [Insert.map, Insert.items, List.map_append, Expression.items_map,
    InsertSource.items_map, flatMap_items_map f (Expression.items_map f)]

theorem Assignment.items_map (a : Assignment σ) : (a.map f).items = a.items.map (Item.map f) := by
  rw [Assignment.map, Assignment.items, Assignment.items, a.column.items_map,
    a.value.items_map, List.map_append]

theorem Update.items_map (u : Update σ) : (u.map f).items = u.items.map (Item.map f) := by
  simp only [Update.map, Update.items, List.map_append, Expression.items_map,
    flatMap_items_map f (Assignment.items_map f), flatMap_items_map f (Expression.items_map f),
    toList_items_map f (Conditions.items_map f)]

theorem Delete.items_map (d : Delete σ) : (d.map f).items = d.items.map (Item.map f) := by
  simp only [Delete.map, Delete.items, List.map_append, Expression.items_map,
    flatMap_items_map f (Expression.items_map f), toList_items_map f (Conditions.items_map f)]

theorem nested_items_map (expressions : List (CommonTableExpression σ)) :
    (expressions.map (·.map f)).map (Item.nested ·.statement)
      = (expressions.map (Item.nested ·.statement)).map (Item.map f) := by
  rw [List.map_map, List.map_map]
  rfl

/-- Replacing the subqueries of a builder leaves its values and the order of its items alone. -/
theorem Builder.items_map : ∀ b : Builder σ, (b.map f).items = b.items.map (Item.map f)
  | .select s => s.items_map f
  | .insert i => i.items_map f
  | .update u => u.items_map f
  | .delete d => d.items_map f
  | .with_ _ expressions none => nested_items_map f expressions
  | .with_ _ expressions (some body) => by
      rw [Builder.map, Builder.items, Builder.items, List.map_append, nested_items_map,
        body.items_map]
  | .commonTable _ => rfl
  | .join j => j.items_map f
  | .orderElement o => o.items_map f
  | .conditions c => c.items_map f

end Map

end SqlBuilder
