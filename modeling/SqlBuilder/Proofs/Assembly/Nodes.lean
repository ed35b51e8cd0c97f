import SqlBuilder.Proofs.Assembly.Building
import SqlBuilder.Statement.Delete
import SqlBuilder.Statement.Insert
import SqlBuilder.Statement.Update
import SqlBuilder.Statement.With

/-!
# The nodes of statements

Each clause and each statement has its node in closed form, and its script
builds just that node (`Conditions.forms`, `Select.forms`, `Insert.forms`,
`Update.forms`, `Delete.forms`, `With.forms` and the lemmas before them).
What follows about assembled statements is said of these nodes; no proof has
to run a script again.
-/

namespace SqlBuilder

variable {σ : Type}

open Script (Builds Forms)

/-! ## Conditions -/

namespace Predicate

/-- An operator behind the first of some operands. -/
def operationNode (operator : String) (es : List (Expression σ)) : Node σ :=
  ⟨.operator operator 1, es.map .expression, [], defaultDelimiter⟩

/-- Operands become leaves in their order. -/
theorem builds_operands (es : List (Expression σ)) :
    Builds (operands es) (es.map .expression) [] none := by
  induction es with
  | nil => exact Builds.nil
  | cons e rest ih => exact (Builds.leaf (.expression e)).append ih

theorem forms_operation (operator : String) (es : List (Expression σ)) :
    Forms (operation operator es) (operationNode operator es) none :=
  (builds_operands es).forms _ _

end Predicate

mutual

/-- The node of a chain: its predicate first, then a node for each attached chain. -/
def Conditions.chainNode (parentheses : Bool) : Conditions σ → Node σ
  | ⟨predicate, attached⟩ =>
      ⟨Metadata.empty.parenthesized parentheses, [], predicate.node :: Attached.nodes attached,
        defaultDelimiter⟩

/-- The node of a predicate; that of a group is the node of its chain, in parentheses. -/
def Predicate.node : Predicate σ → Node σ
  | .compare left operator right => Predicate.operationNode operator [left, right]
  | .trailing operand operator => Predicate.operationNode operator [operand]
  | .between left low high negated =>
      ⟨.operator (if negated then Keyword.notBetween else Keyword.between) 1,
        [.expression left], [Predicate.operationNode Keyword.and [low, high]], defaultDelimiter⟩
  | .existence operand negated =>
      ⟨.keyword (if negated then Keyword.notExists else Keyword.exists_),
        [.expression operand], [], defaultDelimiter⟩
  | .membership left right negated =>
      Predicate.operationNode (if negated then Keyword.notIn else Keyword.in_) [left, right]
  | .quantified left operator quantifier right =>
      Predicate.operationNode operator [left, .call quantifier.keyword [right]]
  | .group conditions => conditions.chainNode true

def Attached.nodes : List (Attached σ) → List (Node σ)
  | [] => []
  | ⟨connector, conditions⟩ :: rest =>
      ⟨.keyword connector.keyword, [], [conditions.chainNode conditions.hasNested],
        defaultDelimiter⟩ :: Attached.nodes rest

end

/-- The node of a chain by itself. -/
def Conditions.node (c : Conditions σ) : Node σ := c.chainNode false

mutual

/-- A chain builds its node and leaves nothing open, as do its predicate and its attached chains. -/
theorem Conditions.forms_chain (parentheses : Bool) : ∀ c : Conditions σ,
    Forms (c.chainScript parentheses) (c.chainNode parentheses) none
  | ⟨predicate, attached⟩ => by
      rw [Conditions.chainScript, Conditions.chainNode]
      exact (predicate.forms.builds.append (Attached.builds attached)).forms _ _

theorem Predicate.forms : ∀ p : Predicate σ, Forms p.script p.node none
  | .compare left operator right => Predicate.forms_operation operator [left, right]
  | .trailing operand operator => Predicate.forms_operation operator [operand]
  | .between left low high negated => by
      rw [Predicate.script, Predicate.node]
      exact ((Predicate.builds_operands [left]).append
        (Predicate.forms_operation Keyword.and [low, high]).builds).forms _ _
  | .existence operand negated => by
      rw [Predicate.script, Predicate.node]
      exact (Predicate.builds_operands [operand]).forms _ _
  | .membership left right negated => Predicate.forms_operation _ [left, right]
  | .quantified left operator quantifier right =>
      Predicate.forms_operation operator [left, .call quantifier.keyword [right]]
  | .group conditions => by
      rw [Predicate.script, Predicate.node]
      exact conditions.forms_chain true

theorem Attached.builds : ∀ as : List (Attached σ),
    Builds (Attached.scripts as) [] (Attached.nodes as) none
  | [] => Builds.nil
  | ⟨connector, conditions⟩ :: rest => by
      rw [Attached.scripts, Attached.nodes]
      exact ((conditions.forms_chain conditions.hasNested).builds.node _ _).append
        (Attached.builds rest)

end

theorem Conditions.forms (c : Conditions σ) : Forms c.script c.node none :=
  c.forms_chain false

/-! ## Clauses -/

namespace Clause

/-- A clause with a list, left out if there is nothing in it. -/
def listNodes (keyword : String) (items : List (Expression σ)) : List (Node σ) :=
  if items.isEmpty then []
  else [⟨.keyword keyword, items.map .expression, [], listDelimiter⟩]

/-- A clause with one expression, left out if there is none. -/
def expressionNodes (keyword : String) (e : Option (Expression σ)) : List (Node σ) :=
  e.toList.map fun e => ⟨.keyword keyword, [.expression e], [], defaultDelimiter⟩

/-- A clause with a chain of conditions, left out if there is none. -/
def conditionsNodes (keyword : String) (c : Option (Conditions σ)) : List (Node σ) :=
  c.toList.map fun c => ⟨.keyword keyword, [], [c.node], defaultDelimiter⟩

def joinedNode (keyword : String) (nodes : List (Node σ)) : Node σ :=
  ⟨(Metadata.keyword keyword).joiningNodes true, [], nodes, listDelimiter⟩

def bareNode (keyword : String) : Node σ := ⟨.keyword keyword, [], [], defaultDelimiter⟩

theorem eq_of_mem_listNodes {keyword : String} {items : List (Expression σ)} {n : Node σ}
    (h : n ∈ listNodes keyword items) :
    n = ⟨.keyword keyword, items.map .expression, [], listDelimiter⟩ := by
  unfold listNodes at h
  split at h
  · exact absurd h List.not_mem_nil
  · exact List.mem_singleton.mp h

theorem builds_list (keyword : String) (items : List (Expression σ)) :
    Builds (list keyword items) [] (listNodes keyword items) none := by
  unfold list listNodes
  split
  · exact Builds.nil
  · exact (Builds.leaves _).node _ _

theorem builds_expression (keyword : String) (e : Option (Expression σ)) :
    Builds (expression keyword e) [] (expressionNodes keyword e) none := by
  cases e with
  | none => exact Builds.nil
  | some e => exact (Builds.leaf (.expression e)).node _ _

theorem builds_conditions (keyword : String) (c : Option (Conditions σ)) :
    Builds (conditions keyword c) [] (conditionsNodes keyword c) none := by
  cases c with
  | none => exact Builds.nil
  | some c => exact c.forms.builds.node _ _

/-- Parts that build a node each are joined below one word. -/
theorem builds_joined {α : Type} (keyword : String) {script : α → Script σ}
    {built : α → Node σ} {as : List α}
    (h : ∀ a ∈ as, Builds (script a) [] [built a] none) :
    Builds (joined keyword (as.map script)) [] [joinedNode keyword (as.map built)] none := by
  have hcontent := Builds.flatMap h
  rw [List.flatMap_def] at hcontent
  exact hcontent.node _ _

theorem builds_bare (keyword : String) :
    Builds (bare keyword : Script σ) [] [bareNode keyword] none :=
  Builds.nil.node _ _

end Clause

namespace Join

def node (j : Join σ) : Node σ :=
  ⟨.keyword j.kind.keyword, [.expression j.table],
    Clause.conditionsNodes Keyword.on j.condition, defaultDelimiter⟩

theorem forms (j : Join σ) : Forms j.script j.node none :=
  ((Builds.leaf (.expression j.table)).append
    (Clause.builds_conditions Keyword.on j.condition)).forms _ _

end Join

namespace OrderElement

def node (o : OrderElement σ) : Node σ :=
  ⟨.empty, .expression o.key :: .keyword o.direction.keyword
    :: o.nulls.toList.map fun place => .keyword place.keyword, [], defaultDelimiter⟩

/-- ORDER BY with its elements, left out if there are none. -/
def clauseNodes (elements : List (OrderElement σ)) : List (Node σ) :=
  if elements.isEmpty then [] else [Clause.joinedNode Keyword.orderBy (elements.map node)]

theorem eq_of_mem_clauseNodes {elements : List (OrderElement σ)} {n : Node σ}
    (h : n ∈ clauseNodes elements) :
    n = Clause.joinedNode Keyword.orderBy (elements.map node) := by
  unfold clauseNodes at h
  split at h
  · exact absurd h List.not_mem_nil
  · exact List.mem_singleton.mp h

theorem forms (o : OrderElement σ) : Forms o.script o.node none := by
  obtain ⟨key, direction, nulls⟩ := o
  have hkey := (Builds.leaf (.expression key)).append (Builds.leaf (.keyword direction.keyword))
  cases nulls with
  | none => exact hkey.forms _ _
  | some place => exact (hkey.append (Builds.leaf (.keyword place.keyword))).forms _ _

theorem builds_clause (elements : List (OrderElement σ)) :
    Builds (clause elements) [] (clauseNodes elements) none := by
  unfold clause clauseNodes
  split
  · exact Builds.nil
  · exact Clause.builds_joined Keyword.orderBy fun o _ => o.forms.builds

end OrderElement

/-! ## SELECT -/

namespace Select

/-- SELECT with its outputs, or with a star if there are none. -/
def outputNode (s : Select σ) : Node σ :=
  ⟨.keyword (if s.isDistinct then Keyword.selectDistinct else Keyword.select),
    if s.outputs.isEmpty then [.raw "*"] else s.outputs.map .expression, [],
    Clause.listDelimiter⟩

/-- The nodes in front of the unions. -/
def coreNodes (s : Select σ) : List (Node σ) :=
  [s.outputNode]
    ++ Clause.listNodes Keyword.from_ s.sources
    ++ s.joins.map Join.node
    ++ Clause.conditionsNodes Keyword.where_ s.restriction
    ++ Clause.listNodes Keyword.groupBy s.grouping
    ++ Clause.conditionsNodes Keyword.having s.groupRestriction

/-- The nodes behind the unions. -/
def trailingNodes (s : Select σ) : List (Node σ) :=
  OrderElement.clauseNodes s.ordering
    ++ Clause.expressionNodes Keyword.limit s.rowLimit
    ++ Clause.expressionNodes Keyword.offset s.rowOffset

theorem builds_output (s : Select σ) : Builds s.outputScript [] [s.outputNode] none := by
  have houtputs : Builds
      (if s.outputs.isEmpty then [.leaf (.raw "*")] else [.leaves (s.outputs.map .expression)])
      (if s.outputs.isEmpty then [.raw "*"] else s.outputs.map .expression) [] none := by
    split
    · exact Builds.leaf (.raw "*")
    · exact Builds.leaves _
  exact houtputs.node _ _

theorem builds_core (s : Select σ) : Builds s.coreScript [] s.coreNodes none :=
  ((((s.builds_output.append (Clause.builds_list Keyword.from_ s.sources)).append
    (Builds.flatMap fun (j : Join σ) _ => j.forms.builds)).append
    (Clause.builds_conditions Keyword.where_ s.restriction)).append
    (Clause.builds_list Keyword.groupBy s.grouping)).append
    (Clause.builds_conditions Keyword.having s.groupRestriction)

theorem builds_trailing (s : Select σ) : Builds s.trailingScript [] s.trailingNodes none :=
  ((OrderElement.builds_clause s.ordering).append
    (Clause.builds_expression Keyword.limit s.rowLimit)).append
    (Clause.builds_expression Keyword.offset s.rowOffset)

end Select

mutual

/-- The node of a SELECT; as a member of a union it may stand in parentheses. -/
def Select.nestedNode (parentheses : Bool) : Select σ → Node σ
  | s@{ unions, .. } =>
      ⟨Metadata.empty.parenthesized parentheses, [],
        s.coreNodes ++ UnionMember.nodes unions ++ s.trailingNodes, defaultDelimiter⟩

def UnionMember.nodes : List (UnionMember σ) → List (Node σ)
  | [] => []
  | ⟨keepsDuplicates, select⟩ :: rest =>
      ⟨.keyword (UnionMember.keyword keepsDuplicates), [],
        [select.nestedNode select.needsParentheses], defaultDelimiter⟩
        :: UnionMember.nodes rest

end

def Select.node (s : Select σ) : Node σ := s.nestedNode false

theorem Select.node_eq (s : Select σ) :
    s.node = ⟨.empty, [], s.coreNodes ++ UnionMember.nodes s.unions ++ s.trailingNodes,
      defaultDelimiter⟩ := by
  obtain ⟨_, _, _, _, _, _, _, _, _, _, _⟩ := s
  rfl

mutual

/-- The clauses in front of the unions, the unions and the clauses behind them build their nodes
side by side. A member of a union is a SELECT again. -/
theorem Select.forms_nested (parentheses : Bool) : ∀ s : Select σ,
    Forms (s.nestedScript parentheses) (s.nestedNode parentheses) none
  | ⟨_, _, _, _, _, _, _, unions, _, _, _⟩ => by
      rw [Select.nestedScript, Select.nestedNode]
      exact (((Select.builds_core _).append (UnionMember.builds unions)).append
        (Select.builds_trailing _)).forms _ _

theorem UnionMember.builds : ∀ members : List (UnionMember σ),
    Builds (UnionMember.scripts members) [] (UnionMember.nodes members) none
  | [] => Builds.nil
  | ⟨keepsDuplicates, select⟩ :: rest => by
      rw [UnionMember.scripts, UnionMember.nodes]
      exact ((select.forms_nested select.needsParentheses).builds.node _ _).append
        (UnionMember.builds rest)

end

theorem Select.forms (s : Select σ) : Forms s.script s.node none := s.forms_nested false

/-! ## INSERT -/

namespace Insert

def targetNode (i : Insert σ) : Node σ :=
  ⟨.keyword Keyword.insertInto, .expression i.table
    :: if i.targets.isEmpty then [] else [.expression (.list i.targets)], [], defaultDelimiter⟩

/-- What is inserted: default values without rows, else the rows, or a SELECT in place. -/
def sourceNodes (i : Insert σ) : List (Node σ) :=
  match i.source with
  | .rows [] => [Clause.bareNode Keyword.defaultValues]
  | .rows rows => Clause.listNodes Keyword.values (rows.map (.list ·))
  | .select s => [s.node]

def node (i : Insert σ) : Node σ :=
  ⟨.empty, [],
    [i.targetNode] ++ i.sourceNodes
      ++ (if i.skipsConflicts then [Clause.bareNode Keyword.onConflictDoNothing] else [])
      ++ Clause.listNodes Keyword.returning i.results,
    defaultDelimiter⟩

theorem builds_target (i : Insert σ) : Builds i.targetScript [] [i.targetNode] none := by
  unfold targetScript targetNode
  split
  · exact (Builds.leaf (.expression i.table)).node _ _
  · exact ((Builds.leaf (.expression i.table)).append
      (Builds.leaf (.expression (.list i.targets)))).node _ _

/-- The three sources build their nodes: a word, a list of rows, or a SELECT. -/
theorem builds_source (i : Insert σ) : Builds i.sourceScript [] i.sourceNodes none := by
  obtain ⟨_, _, source, _, _⟩ := i
  rcases source with (_ | ⟨row, rows⟩) | s
  · exact Clause.builds_bare Keyword.defaultValues
  · exact Clause.builds_list Keyword.values ((row :: rows).map (.list ·))
  · exact s.forms.builds

theorem forms (i : Insert σ) : Forms i.script i.node none := by
  have hconflict : Builds (if i.skipsConflicts then Clause.bare Keyword.onConflictDoNothing
      else ([] : Script σ)) []
      (if i.skipsConflicts then [Clause.bareNode Keyword.onConflictDoNothing] else []) none := by
    split
    · exact Clause.builds_bare _
    · exact Builds.nil
  exact (((i.builds_target.append i.builds_source).append hconflict).append
    (Clause.builds_list Keyword.returning i.results)).forms _ _

end Insert

/-! ## UPDATE -/

namespace Assignment

def node (a : Assignment σ) : Node σ := Predicate.operationNode "=" [a.column, a.value]

theorem forms (a : Assignment σ) : Forms a.script a.node none :=
  Predicate.forms_operation "=" [a.column, a.value]

end Assignment

namespace Update

def node (u : Update σ) : Node σ :=
  ⟨.empty, [],
    Clause.expressionNodes Keyword.update (some u.table)
      ++ [Clause.joinedNode Keyword.set (u.assignments.map Assignment.node)]
      ++ Clause.listNodes Keyword.from_ u.sources
      ++ Clause.conditionsNodes Keyword.where_ u.restriction
      ++ Clause.listNodes Keyword.returning u.results,
    defaultDelimiter⟩

/-- An update without assignments is rejected while it is assembled. -/
def rejection (u : Update σ) : Option String :=
  if u.assignments.isEmpty then some noAssignment else none

/-- An update builds its node even if it is rejected: the rejection stays beside the node. -/
theorem forms (u : Update σ) : Forms u.script u.node u.rejection := by
  have hreject : Builds (if u.assignments.isEmpty then [.reject noAssignment] else [])
      ([] : List (Token σ)) [] u.rejection := by
    unfold rejection
    split
    · exact Builds.reject noAssignment
    · exact Builds.nil
  have hset : Builds (Clause.joined Keyword.set (u.assignments.map Assignment.script)) []
      [Clause.joinedNode Keyword.set (u.assignments.map Assignment.node)] none :=
    Clause.builds_joined Keyword.set fun a _ => a.forms.builds
  have h := (((((Clause.builds_expression Keyword.update (some u.table)).append
    hreject).append hset).append
    (Clause.builds_list Keyword.from_ u.sources)).append
    (Clause.builds_conditions Keyword.where_ u.restriction)).append
    (Clause.builds_list Keyword.returning u.results)
  have h := h.forms .empty defaultDelimiter
  simpa [script, node] using h

end Update

/-! ## DELETE -/

namespace Delete

def node (d : Delete σ) : Node σ :=
  ⟨.empty, [],
    Clause.expressionNodes Keyword.deleteFrom (some d.table)
      ++ Clause.listNodes Keyword.using_ d.sources
      ++ Clause.conditionsNodes Keyword.where_ d.restriction
      ++ Clause.listNodes Keyword.returning d.results,
    defaultDelimiter⟩

theorem forms (d : Delete σ) : Forms d.script d.node none :=
  ((((Clause.builds_expression Keyword.deleteFrom (some d.table)).append
    (Clause.builds_list Keyword.using_ d.sources)).append
    (Clause.builds_conditions Keyword.where_ d.restriction)).append
    (Clause.builds_list Keyword.returning d.results)).forms _ _

end Delete

/-! ## WITH -/

namespace CommonTableExpression

def node (c : CommonTableExpression σ) : Node σ :=
  Predicate.operationNode Keyword.as [c.header, .nested c.statement]

theorem forms (c : CommonTableExpression σ) : Forms c.script c.node none :=
  Predicate.forms_operation Keyword.as [c.header, .nested c.statement]

end CommonTableExpression

namespace With

def expressionNodes (w : With σ) : List (Node σ) :=
  if w.expressions.isEmpty then []
  else
    [Clause.joinedNode (if w.isRecursive then Keyword.withRecursive else Keyword.with_)
      (w.expressions.map CommonTableExpression.node)]

theorem builds_expressions (w : With σ) :
    Builds w.expressionScript [] w.expressionNodes none := by
  unfold expressionScript expressionNodes
  split
  · exact Builds.nil
  · exact Clause.builds_joined _ fun c _ => c.forms.builds

/-- The body is assembled in place: what it builds are children of the
statement, and a rejection of it rejects the statement. -/
theorem forms {w : With σ} {nodes : List (Node σ)} {rejection : Option String}
    (hbody : Builds (w.content.getD []) [] nodes rejection) :
    Forms w.script ⟨.empty, [], w.expressionNodes ++ nodes, defaultDelimiter⟩ rejection :=
  (w.builds_expressions.append hbody).forms _ _

end With

end SqlBuilder
