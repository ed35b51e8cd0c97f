import SqlBuilder.Proofs.Columns.Resolved

/-!
# Trees whose columns are resolved

In a tree, a subquery is a tree of its own, and so columns are resolved to any depth:
`settled` is the tree with all of them quoted or not, as told. The option is read where
the text of a column is written, and nowhere else, so that a node under one option and the
settled node under any other are rendered alike (`Node.render_settled`): the same texts are
left out where they are empty, and the same values are collected. Building a tree does not
look into expressions, so that it goes the same way with settled steps
(`Tree.run_settled`).
-/

namespace SqlBuilder

/-! ## Settled trees -/

mutual

/-- A subquery with all its columns settled. -/
def Assembled.settled (q : Bool) : Assembled → Assembled
  | .complete log root => .complete log (root.settled q)
  | .failed log e => .failed log e

/-- A node with all its columns settled, those of the nodes below and of subqueries included. -/
def Node.settled (q : Bool) : Node Assembled → Node Assembled
  | ⟨⟨token, position, parentheses, joinNodes⟩, leaves, children, delimiter⟩ =>
      ⟨⟨Token.settledOption q token, position, parentheses, joinNodes⟩, Token.settledAll q leaves,
        Node.settledAll q children, delimiter⟩

def Node.settledAll (q : Bool) : List (Node Assembled) → List (Node Assembled)
  | [] => []
  | node :: rest => node.settled q :: Node.settledAll q rest

def Token.settledOption (q : Bool) : Option (Token Assembled) → Option (Token Assembled)
  | none => none
  | some token => some (token.settled q)

def Token.settled (q : Bool) : Token Assembled → Token Assembled
  | .keyword name => .keyword name
  | .operator name => .operator name
  | .expression e => .expression (e.settled q)

def Token.settledAll (q : Bool) : List (Token Assembled) → List (Token Assembled)
  | [] => []
  | token :: rest => token.settled q :: Token.settledAll q rest

def Expression.settled (q : Bool) : Expression Assembled → Expression Assembled
  | .text content style suffix => .text content (style.resolved q) suffix
  | .value v suffix => .value v suffix
  | .list elements suffix => .list (Expression.settledAll q elements) suffix
  | .array elements suffix => .array (Expression.settledAll q elements) suffix
  | .call name arguments suffix => .call name (Expression.settledAll q arguments) suffix
  | .nested statement suffix => .nested (statement.settled q) suffix

def Expression.settledAll (q : Bool) : List (Expression Assembled) → List (Expression Assembled)
  | [] => []
  | e :: rest => e.settled q :: Expression.settledAll q rest

end

section Lists

variable (q : Bool)

theorem Node.settledAll_eq_map (nodes : List (Node Assembled)) :
    Node.settledAll q nodes = nodes.map (Node.settled q) := by
  induction nodes with
  | nil => rfl
  | cons n rest ih => rw [Node.settledAll, ih, List.map_cons]

theorem Token.settledAll_eq_map (tokens : List (Token Assembled)) :
    Token.settledAll q tokens = tokens.map (Token.settled q) := by
  induction tokens with
  | nil => rfl
  | cons t rest ih => rw [Token.settledAll, ih, List.map_cons]

theorem Expression.settledAll_eq_map (es : List (Expression Assembled)) :
    Expression.settledAll q es = es.map (Expression.settled q) := by
  induction es with
  | nil => rfl
  | cons e rest ih => rw [Expression.settledAll, ih, List.map_cons]

end Lists

/-! ## Rendering -/

section Render

variable {q : Bool}

/-- A resolved style is written under any option as the style itself under the one. -/
theorem TextStyle.layout_resolved (p : PlaceholderStyle) (other : Bool) (content : String) :
    ∀ style : TextStyle,
      (style.resolved q).layout ⟨p, other⟩ content = style.layout ⟨p, q⟩ content
  | .column none => rfl
  | .column (some _) | .raw | .stringConstant | .dollarString _ | .field => rfl

theorem TextStyle.events_resolved (content : String) : ∀ style : TextStyle,
    (style.resolved q).events content = style.events content
  | .column none => rfl
  | .column (some _) | .raw | .stringConstant | .dollarString _ | .field => rfl

theorem Expression.rowText_settled (e : Expression Assembled) (text : String) :
    (e.settled q).rowText text = e.rowText text := by
  cases e <;> rfl

/-- A call is laid out by the texts of its arguments, and whether they bring parentheses. -/
theorem Expression.callText_settled (name : String) (arguments : List (Expression Assembled))
    (texts : List String) (aliased : Bool) :
    callText name (Expression.settledAll q arguments) texts aliased
      = callText name arguments texts aliased := by
  have hrows : List.zipWith rowText (arguments.map (Expression.settled q)) texts
      = List.zipWith rowText arguments texts := by
    rw [List.zipWith_map_left]
    simp only [rowText_settled]
  unfold callText
  rw [settledAll_eq_map, hrows]
  split
  · rfl
  · match arguments, texts with
    | [argument], [lone] => exact congrArg (name ++ ·) (argument.rowText_settled lone)
    | [], _ | [_], [] | [_], _ :: _ :: _ | _ :: _ :: _, _ => rfl

variable (m : Mode) (p : PlaceholderStyle) (other : Bool)

mutual

/-- A settled tree renders under any option as the tree itself under the one. The two runs agree
in all they do, so that nothing needs to be said about which texts are empty. -/
theorem Assembled.render_settled : ∀ a : Assembled,
    (a.settled q).render ⟨m, ⟨p, other⟩⟩ = a.render ⟨m, ⟨p, q⟩⟩
  | .complete log root => by
      rw [Assembled.settled, Assembled.render, Assembled.render, Node.render_settled root]
  | .failed log e => rfl

theorem Node.render_settled : ∀ node : Node Assembled,
    (node.settled q).render ⟨m, ⟨p, other⟩⟩ = node.render ⟨m, ⟨p, q⟩⟩
  | ⟨⟨token, position, parentheses, joinNodes⟩, leaves, children, delimiter⟩ => by
      rw [Node.settled, Node.render, Node.render, Token.renderAll_settled leaves,
        Token.renderOption_settled token, Node.renderAll_settled children]
      rfl

theorem Node.renderAll_settled : ∀ nodes : List (Node Assembled),
    Node.renderAll ⟨m, ⟨p, other⟩⟩ (Node.settledAll q nodes) = Node.renderAll ⟨m, ⟨p, q⟩⟩ nodes
  | [] => rfl
  | node :: rest => by
      rw [Node.settledAll, Node.renderAll, Node.renderAll, Node.render_settled node,
        Node.renderAll_settled rest]

theorem Token.renderOption_settled : ∀ token : Option (Token Assembled),
    Token.renderOption ⟨m, ⟨p, other⟩⟩ (Token.settledOption q token)
      = Token.renderOption ⟨m, ⟨p, q⟩⟩ token
  | none => rfl
  | some token => by
      rw [Token.settledOption, Token.renderOption, Token.renderOption, Token.render_settled token]

theorem Token.render_settled : ∀ token : Token Assembled,
    (token.settled q).render ⟨m, ⟨p, other⟩⟩ = token.render ⟨m, ⟨p, q⟩⟩
  | .keyword _ | .operator _ => rfl
  | .expression e => by
      rw [Token.settled, Token.render, Token.render, Expression.render_settled e]

theorem Token.renderAll_settled : ∀ tokens : List (Token Assembled),
    Token.renderAll ⟨m, ⟨p, other⟩⟩ (Token.settledAll q tokens)
      = Token.renderAll ⟨m, ⟨p, q⟩⟩ tokens
  | [] => rfl
  | token :: rest => by
      rw [Token.settledAll, Token.renderAll, Token.renderAll, Token.render_settled token,
        Token.renderAll_settled rest]

theorem Expression.render_settled : ∀ e : Expression Assembled,
    (e.settled q).render ⟨m, ⟨p, other⟩⟩ = e.render ⟨m, ⟨p, q⟩⟩
  | .text content style suffix => by
      rw [Expression.settled, Expression.render, Expression.render, TextStyle.layout_resolved,
        TextStyle.events_resolved]
  | .value _ _ => rfl
  | .list elements suffix => by
      rw [Expression.settled, Expression.render, Expression.render,
        Expression.renderAll_settled elements]
  | .array elements suffix => by
      rw [Expression.settled, Expression.render, Expression.render,
        Expression.renderAll_settled elements]
  | .call name arguments suffix => by
      simp only [Expression.settled, Expression.render, Expression.renderAll_settled arguments,
        Expression.callText_settled]
  | .nested statement suffix => by
      rw [Expression.settled, Expression.render, Expression.render,
        Assembled.render_settled statement]

theorem Expression.renderAll_settled : ∀ es : List (Expression Assembled),
    Expression.renderAll ⟨m, ⟨p, other⟩⟩ (Expression.settledAll q es)
      = Expression.renderAll ⟨m, ⟨p, q⟩⟩ es
  | [] => rfl
  | e :: rest => by
      rw [Expression.settledAll, Expression.renderAll, Expression.renderAll,
        Expression.render_settled e, Expression.renderAll_settled rest]

end

end Render

/-! ## Building -/

def Metadata.settled (q : Bool) (m : Metadata Assembled) : Metadata Assembled :=
  { m with token := Token.settledOption q m.token }

theorem Node.settled_eq (q : Bool) (n : Node Assembled) :
    n.settled q = { n with
      metadata := n.metadata.settled q
      leaves := n.leaves.map (Token.settled q)
      children := n.children.map (Node.settled q) } := by
  obtain ⟨⟨token, position, parentheses, joinNodes⟩, leaves, children, delimiter⟩ := n
  rw [Node.settled, Token.settledAll_eq_map, Node.settledAll_eq_map]
  rfl

theorem Node.addLeaf_settled (q : Bool) (n : Node Assembled) (leaf : Token Assembled) :
    (n.settled q).addLeaf (leaf.settled q) = (n.addLeaf leaf).settled q := by
  simp only [Node.settled_eq, Node.addLeaf, List.map_append, List.map_cons, List.map_nil]

theorem Node.addLeaves_settled (q : Bool) (n : Node Assembled) (leaves : List (Token Assembled)) :
    (n.settled q).addLeaves (leaves.map (Token.settled q)) = (n.addLeaves leaves).settled q := by
  simp only [Node.settled_eq, Node.addLeaves, List.map_append]

theorem Node.addChild_settled (q : Bool) (n child : Node Assembled) :
    (n.settled q).addChild (child.settled q) = (n.addChild child).settled q := by
  rw [Node.settled_eq q n, Node.settled_eq q (n.addChild child)]
  simp only [Node.addChild, List.map_append, List.map_cons, List.map_nil]

def Step.settled (q : Bool) : Step Assembled → Step Assembled
  | .startNode metadata delimiter => .startNode (metadata.settled q) delimiter
  | .endNode => .endNode
  | .leaf token => .leaf (token.settled q)
  | .leaves tokens => .leaves (tokens.map (Token.settled q))
  | .reject reason => .reject reason
  | .reset => .reset

namespace Tree

def settled (q : Bool) (t : Tree Assembled) : Tree Assembled :=
  { t with stack := t.stack.map (Node.settled q), completed := t.completed.map (Node.settled q) }

variable (q : Bool) (t : Tree Assembled)

theorem misuse?_settled (step : Step Assembled) :
    (t.settled q).misuse? (step.settled q) = t.misuse? step := by
  cases step <;> simp [misuse?, settled, Step.settled]

theorem modifyTop_settled {f f' : Node Assembled → Node Assembled}
    (hf : ∀ n, f' (n.settled q) = (f n).settled q) :
    (t.settled q).modifyTop f' = (t.modifyTop f).settled q := by
  obtain ⟨stack, completed, misuse, rejection⟩ := t
  cases stack with
  | nil => rfl
  | cons top rest => simp only [settled, modifyTop, List.map_cons, hf]

/-- Closing a node adds it to the one around it, and both are settled. -/
theorem close_settled : (t.settled q).close = t.close.settled q := by
  obtain ⟨stack, completed, misuse, rejection⟩ := t
  rcases stack with _ | ⟨node, _ | ⟨parent, rest⟩⟩
  · rfl
  · rfl
  · simp only [close, settled, List.map_cons, Node.addChild_settled]

/-- A settled step on a settled tree. -/
theorem apply_settled (step : Step Assembled) :
    (t.settled q).apply (step.settled q) = (t.apply step).settled q := by
  let t' : Tree Assembled := { t with misuse := t.misuse <|> t.misuse? step }
  have hmisuse : { t.settled q with misuse := t.misuse <|> (t.settled q).misuse? (step.settled q) }
      = t'.settled q := by
    rw [misuse?_settled]
    rfl
  cases step with
  | startNode metadata delimiter =>
      let node : Node Assembled := { metadata := metadata.settled q, delimiter }
      have hnode : Node.settled q { metadata, delimiter } = node := Node.settled_eq q _
      have hopened : ({ t' with stack := { metadata, delimiter } :: t'.stack } : Tree _).settled q
          = { t'.settled q with stack := node :: (t'.settled q).stack } := by
        rw [← hnode]
        rfl
      exact (congrArg (fun t => { t with stack := node :: t.stack }) hmisuse).trans hopened.symm
  | endNode => exact (congrArg close hmisuse).trans (t'.close_settled q)
  | leaf token =>
      exact (congrArg (modifyTop · (·.addLeaf (token.settled q))) hmisuse).trans
        (t'.modifyTop_settled q fun n => n.addLeaf_settled q token)
  | leaves tokens =>
      exact (congrArg (modifyTop · (·.addLeaves (tokens.map (Token.settled q)))) hmisuse).trans
        (t'.modifyTop_settled q fun n => n.addLeaves_settled q tokens)
  | reject reason =>
      exact congrArg (fun t => { t with rejection := t.rejection <|> some reason }) hmisuse
  | reset => rfl

/-- Settled steps on a settled tree. -/
theorem run_settled (script : Script Assembled) :
    (t.settled q).run (script.map (Step.settled q)) = (t.run script).settled q := by
  induction script generalizing t with
  | nil => rfl
  | cons step rest ih => rw [List.map_cons, run_cons, run_cons, apply_settled, ih]

theorem log_settled (script : Script Assembled) :
    (t.settled q).log (script.map (Step.settled q)) = t.log script := by
  induction script generalizing t with
  | nil => rfl
  | cons step rest ih =>
      have hevents : (t.settled q).events (step.settled q) = t.events step := by
        have hmisuse := t.misuse?_settled q step
        cases step with
        | reject _ => rfl
        | _ => exact congrArg (·.toList.map Event.brokenTree) hmisuse
      rw [List.map_cons, log, log, hevents, apply_settled, ih]

theorem run_fresh_settled (script : Script Assembled) :
    Tree.run {} (script.map (Step.settled q)) = (Tree.run {} script).settled q :=
  run_settled q {} script

theorem log_fresh_settled (script : Script Assembled) :
    Tree.log {} (script.map (Step.settled q)) = Tree.log {} script :=
  log_settled q {} script

/-- Whether a tree has a root is told by its form alone. -/
theorem root_settled : (t.settled q).root = t.root.map (Node.settled q) := by
  obtain ⟨stack, completed, misuse, rejection⟩ := t
  cases misuse <;> cases stack <;> cases rejection <;> cases completed <;>
    simp [root, settled, openNodes, Except.map]

/-- The result is the same, and so is what has been collected. -/
theorem renderTree_settled (m : Mode) (p : PlaceholderStyle) (other : Bool) :
    ∃ result collected,
      (Formatter.new m ⟨p, other⟩).renderTree (t.settled q) = (result, ⟨⟨m, p, other⟩, collected⟩)
      ∧ (Formatter.new m ⟨p, q⟩).renderTree t = (result, ⟨⟨m, p, q⟩, collected⟩) := by
  unfold Formatter.renderTree
  rw [root_settled]
  cases t.root with
  | error e => exact ⟨.error e, {}, rfl, rfl⟩
  | ok root =>
      have hroot := Node.render_settled (q := q) m p other root
      simp only [Except.map, Formatter.renderNode, Formatter.run, Formatter.new, hroot]
      exact ⟨_, _, rfl, rfl⟩

theorem render_settled (p : PlaceholderStyle) (other : Bool) :
    (t.settled q).render ⟨p, other⟩ = t.render ⟨p, q⟩ := by
  obtain ⟨result, collected, hsettled, hplain⟩ := t.renderTree_settled q .literal p other
  unfold render
  rw [hsettled, hplain]
  cases result <;> rfl

theorem renderPrepared_settled (p : PlaceholderStyle) (other : Bool) :
    (t.settled q).renderPrepared ⟨p, other⟩ = t.renderPrepared ⟨p, q⟩ := by
  obtain ⟨result, collected, hsettled, hplain⟩ := t.renderTree_settled q .prepared p other
  unfold renderPrepared
  rw [hsettled, hplain]
  cases result <;> rfl

end Tree

theorem Assembled.ofScript_settled (q : Bool) (script : Script Assembled) :
    Assembled.ofScript (script.map (Step.settled q)) = (Assembled.ofScript script).settled q := by
  unfold ofScript
  rw [Tree.log_fresh_settled, Tree.run_fresh_settled, Tree.root_settled]
  cases (Tree.run {} script).root <;> rfl

section Assemble

variable {α β : Type} [Assemble α Assembled] [Assemble β Assembled] {a : α} {b : β} {q : Bool}

/-- What assembles by settled steps renders, under either option, as what assembles by the
steps themselves does under the one. -/
theorem render_of_settled (h : Assemble.script b = (Assemble.script a).map (Step.settled q))
    (p : PlaceholderStyle) (other : Bool) : render b ⟨p, other⟩ = render a ⟨p, q⟩ := by
  simp only [SqlBuilder.render, h, Tree.log_fresh_settled, Tree.run_fresh_settled,
    Tree.render_settled]

theorem renderPrepared_of_settled
    (h : Assemble.script b = (Assemble.script a).map (Step.settled q))
    (p : PlaceholderStyle) (other : Bool) :
    renderPrepared b ⟨p, other⟩ = renderPrepared a ⟨p, q⟩ := by
  simp only [SqlBuilder.renderPrepared, h, Tree.log_fresh_settled, Tree.run_fresh_settled,
    Tree.renderPrepared_settled]

end Assemble

end SqlBuilder
