import SqlBuilder.Proofs.Assembly.Nodes
import SqlBuilder.Proofs.Scanning.Expressions

/-!
# Strings in nodes

If the leaves and the children of a node have safe places for their strings, so has
the node, for each of the shapes that nodes of statements have: a clause behind a
keyword, clauses one after the other, nodes joined like items, and an operation.
-/

namespace SqlBuilder

variable {α β : Type}

namespace Reading

variable (config : RenderConfig)

def tokens (leaves : α → List (Token Assembled)) : Reading α where
  ok a := ∀ t ∈ leaves a, t.Complete
  texts a := (leaves a).map (Token.literalText config)

def node (built : α → Node Assembled) : Reading α :=
  .single (fun a => (built a).Complete) fun a => (built a).literalText config

/-- Nodes one after the other; one without text leaves nothing. -/
def nodes (built : α → List (Node Assembled)) : Reading α where
  ok a := ∀ n ∈ built a, n.Complete
  texts a := ((built a).map (Node.literalText config)).filter (· != "")

section Equations

variable (leaves : α → List (Token Assembled)) (built : α → Node Assembled)
  (children : α → List (Node Assembled)) (a : α)

@[simp] theorem ok_tokens : (tokens config leaves).ok a = ∀ t ∈ leaves a, t.Complete := rfl

@[simp] theorem texts_tokens :
    (tokens config leaves).texts a = (leaves a).map (Token.literalText config) := rfl

@[simp] theorem ok_node : (node config built).ok a = (built a).Complete := rfl

@[simp] theorem texts_node : (node config built).texts a = [(built a).literalText config] := rfl

theorem texts_each_node (as : List α) :
    (node config built).each.texts as = (as.map built).map (Node.literalText config) := by
  rw [node, texts_each_single, List.map_map]
  rfl

@[simp] theorem ok_nodes : (nodes config children).ok a = ∀ n ∈ children a, n.Complete := rfl

@[simp] theorem texts_nodes :
    (nodes config children).texts a
      = ((children a).map (Node.literalText config)).filter (· != "") := rfl

end Equations

end Reading

/-! ## Nodes by their tokens -/

theorem neutral_defaultDelimiter : Neutral defaultDelimiter := by decide

theorem Clause.neutral_listDelimiter : Neutral listDelimiter := by decide

section Tokens

variable (leaves : List (Token Assembled)) (children : List (Node Assembled))
  (delimiter : String)

@[simp] theorem Token.complete_keyword (word : String) : Complete (.keyword word) := rfl

@[simp] theorem Token.complete_operator (word : String) : Complete (.operator word) := rfl

theorem Node.complete_keyword (word : String) :
    Complete ⟨.keyword word, leaves, children, delimiter⟩
      ↔ (∀ t ∈ leaves, t.Complete) ∧ ∀ n ∈ children, n.Complete := by
  simp [complete_iff, Metadata.keyword, Metadata.withToken]

theorem Node.complete_operator (word : String) :
    Complete ⟨.operator word 1, leaves, children, delimiter⟩
      ↔ (∀ t ∈ leaves, t.Complete) ∧ ∀ n ∈ children, n.Complete := by
  simp [complete_iff, Metadata.operator, Metadata.withToken]

theorem Node.complete_joined (word : String) (nodes : List (Node Assembled)) :
    Complete (Clause.joinedNode word nodes) ↔ ∀ n ∈ nodes, n.Complete := by
  simp [Clause.joinedNode, complete_iff, Metadata.joiningNodes, Metadata.keyword,
    Metadata.withToken]

theorem Node.complete_around (parentheses : Bool) :
    Complete ⟨Metadata.empty.parenthesized parentheses, leaves, children, delimiter⟩
      ↔ (∀ t ∈ leaves, t.Complete) ∧ ∀ n ∈ children, n.Complete := by
  simp [complete_iff, Metadata.parenthesized, Metadata.empty]

variable (config : RenderConfig)

theorem Node.literalText_keyword (word : String) :
    literalText config ⟨.keyword word, leaves, children, delimiter⟩
      = " ".intercalate ([word]
          ++ (joinedItems delimiter (leaves.map (Token.literalText config))
            ++ (children.map (literalText config)).filter (· != ""))) := by
  simp [literalText_eq, Metadata.layout, Metadata.keyword, Metadata.withToken,
    Token.literalText_keyword, joinedItems]

/-- An operator behind the first leaf. -/
theorem Node.literalText_operator (word : String) (first : Token Assembled) :
    literalText config ⟨.operator word 1, first :: leaves, children, delimiter⟩
      = " ".intercalate (joinedItems delimiter [first.literalText config]
          ++ ([word] ++ (joinedItems delimiter (leaves.map (Token.literalText config))
            ++ (children.map (literalText config)).filter (· != "")))) := by
  simp [literalText_eq, Metadata.layout, Metadata.operator, Metadata.withToken,
    Token.literalText_operator]

theorem Node.literalText_joined (word : String) (nodes : List (Node Assembled)) :
    literalText config (Clause.joinedNode word nodes)
      = " ".intercalate ([word]
          ++ joinedItems Clause.listDelimiter (nodes.map (literalText config))) := by
  simp [Clause.joinedNode, literalText_eq, Metadata.layout, Metadata.joiningNodes,
    Metadata.keyword, Metadata.withToken, Token.literalText_keyword, joinedItems]

theorem Node.literalText_around (parentheses : Bool) :
    literalText config ⟨Metadata.empty.parenthesized parentheses, leaves, children, delimiter⟩
      = let text := " ".intercalate
          (joinedItems delimiter (leaves.map (Token.literalText config))
            ++ (children.map (literalText config)).filter (· != ""))
        if parentheses then parenthesize text else text := by
  simp [literalText_eq, Metadata.layout, Metadata.parenthesized, Metadata.empty, joinedItems]

end Tokens

namespace Safe

variable {config : RenderConfig} {m : Marked α} {n : Marked β} {delimiter word : String}

/-! ## The same leaves, the same nodes

Whatever strings stand in their places. -/

theorem tokens_congr {leaves leaves' : α → List (Token Assembled)}
    (h : Safe (.tokens config leaves) m) (heq : m.Always fun a => leaves' a = leaves a) :
    Safe (.tokens config leaves') m :=
  h.congr (heq.mono fun a ha => by simp [ha])

theorem node_congr {built built' : α → Node Assembled} (h : Safe (.node config built) m)
    (heq : m.Always fun a => built' a = built a) : Safe (.node config built') m :=
  h.congr (heq.mono fun a ha => by simp [ha])

theorem nodes_congr {built built' : α → List (Node Assembled)} (h : Safe (.nodes config built) m)
    (heq : m.Always fun a => built' a = built a) : Safe (.nodes config built') m :=
  h.congr (heq.mono fun a ha => by simp [ha])

/-! ## Leaves -/

theorem token {e : α → Expression Assembled}
    (h : Safe ((Reading.expression config).comap e) m) :
    Safe (.tokens config fun a => [.expression (e a)]) m :=
  h.of_eq (fun _ => List.forall_mem_singleton) fun _ => rfl

theorem tokens {ms : List (Marked α)} {e : α → Expression Assembled}
    (h : ∀ m ∈ ms, Safe ((Reading.expression config).comap e) m) :
    Safe (.tokens config fun as => as.map fun a => .expression (e a)) (.list ms) := by
  refine (Safe.list h).of_eq (fun as => List.forall_mem_map) fun as => ?_
  refine Eq.trans ?_ (Reading.texts_each_single _ _ as).symm
  rw [Reading.texts_tokens, List.map_map]
  rfl

theorem appendTokens {leaves : α → List (Token Assembled)} {leaves' : β → List (Token Assembled)}
    (hm : Safe (.tokens config leaves) m) (hn : Safe (.tokens config leaves') n) :
    Safe (.tokens config fun p => leaves p.1 ++ leaves' p.2) (m.pair n) :=
  (hm.pair hn).of_eq (fun _ => List.forall_mem_append) fun _ => List.map_append

/-! ## Nodes one after the other -/

theorem only {built : α → Node Assembled} (h : Safe (.node config built) m) :
    Safe (.nodes config fun a => [built a]) m :=
  (h.through Keeps.shown).of_eq (fun _ => List.forall_mem_singleton) fun _ => rfl

theorem append {built : α → List (Node Assembled)} {built' : β → List (Node Assembled)}
    (hm : Safe (.nodes config built) m) (hn : Safe (.nodes config built') n) :
    Safe (.nodes config fun p => built p.1 ++ built' p.2) (m.pair n) :=
  (hm.pair hn).of_eq (fun _ => List.forall_mem_append) fun p => by
    simp only [Reading.texts_nodes, Reading.texts_both, List.map_append, List.filter_append]

/-- Nodes without strings behind others. -/
theorem appendFixed {built : α → List (Node Assembled)} {fixed : List (Node Assembled)}
    (hm : Safe (.nodes config built) m)
    (hfixed : Safe (.nodes config fun _ : Unit => fixed) (.pure ())) :
    Safe (.nodes config fun a => built a ++ fixed) m :=
  (hm.append hfixed).unpair

theorem nodes {ms : List (Marked α)} {built : α → Node Assembled}
    (h : ∀ m ∈ ms, Safe (.node config built) m) :
    Safe (.nodes config fun as => as.map built) (.list ms) := by
  refine ((Safe.list h).through Keeps.shown).of_eq (fun as => List.forall_mem_map) fun as => ?_
  rw [Reading.texts_through, Reading.texts_each_node, Reading.texts_nodes]

/-! ## Shapes of nodes -/

/-- A keyword, with items and clauses behind it. -/
theorem clause (hword : Neutral word) (hd : Neutral delimiter)
    {leaves : α → List (Token Assembled)} {children : β → List (Node Assembled)}
    (hm : Safe (.tokens config leaves) m) (hn : Safe (.nodes config children) n) :
    Safe (.node config fun p => ⟨.keyword word, leaves p.1, children p.2, delimiter⟩)
      (m.pair n) := by
  have hchange := (Keeps.intercalate (by decide : Neutral " ")).comp
    (Keeps.behind (List.forall_mem_singleton.mpr hword))
  refine (((hm.through (Keeps.joinedItems hd)).pair hn).through hchange).of_eq
    (fun p => Node.complete_keyword _ _ _ _) fun p => ?_
  rw [Reading.texts_node, Node.literalText_keyword]
  rfl

theorem leafClause (hword : Neutral word) (hd : Neutral delimiter)
    {leaves : α → List (Token Assembled)} (h : Safe (.tokens config leaves) m) :
    Safe (.node config fun a => ⟨.keyword word, leaves a, [], delimiter⟩) m := by
  have hnone : Safe (.nodes config fun _ : Unit => []) (.pure ()) := .blank rfl
  exact (clause hword hd h hnone).unpair

theorem nodeClause (hword : Neutral word) (hd : Neutral delimiter)
    {children : α → List (Node Assembled)} (h : Safe (.nodes config children) m) :
    Safe (.node config fun a => ⟨.keyword word, [], children a, delimiter⟩) m := by
  have hnone : Safe (.tokens config fun _ : Unit => []) (.pure ()) := .blank rfl
  exact (clause hword hd hnone h).unpairLeft

/-- A keyword in front of nodes that are joined like the items of a list. -/
theorem joined (hword : Neutral word) {ms : List (Marked α)} {built : α → Node Assembled}
    (h : ∀ m ∈ ms, Safe (.node config built) m) :
    Safe (.node config fun as => Clause.joinedNode word (as.map built)) (.list ms) := by
  have hchange := ((Keeps.intercalate (by decide : Neutral " ")).comp
    (Keeps.behind (List.forall_mem_singleton.mpr hword))).comp
    (Keeps.joinedItems Clause.neutral_listDelimiter)
  refine ((Safe.list h).through hchange).of_eq (fun as => ?_) fun as => ?_
  · exact (Node.complete_joined _ _).trans List.forall_mem_map
  · rw [Reading.texts_through, Reading.texts_each_node, Reading.texts_node,
      Node.literalText_joined]
    rfl

/-- Clauses one after the other, in parentheses or not. -/
theorem around (parentheses : Bool) {children : α → List (Node Assembled)}
    (h : Safe (.nodes config children) m) :
    Safe (.node config fun a =>
      ⟨Metadata.empty.parenthesized parentheses, [], children a, defaultDelimiter⟩) m := by
  have hchange := (Keeps.parenthesizeIf parentheses).comp
    (Keeps.intercalate (by decide : Neutral " "))
  refine (h.through hchange).of_eq (fun a => ?_) fun a => ?_
  · exact (Node.complete_around _ _ _ _).trans (and_iff_right (List.forall_mem_nil _))
  · rw [Reading.texts_node, Node.literalText_around]
    rfl

/-- Leaves one after the other. -/
theorem sequence (hd : Neutral delimiter) {leaves : α → List (Token Assembled)}
    (h : Safe (.tokens config leaves) m) :
    Safe (.node config fun a => ⟨.empty, leaves a, [], delimiter⟩) m := by
  have hchange := (Keeps.intercalate (by decide : Neutral " ")).comp (Keeps.joinedItems hd)
  refine (h.through hchange).of_eq (fun a => ?_) fun a => ?_
  · exact (Node.complete_around _ _ _ false).trans (and_iff_left (List.forall_mem_nil _))
  · refine congrArg ([·]) ((Node.literalText_around _ _ _ config false).trans ?_)
    simp

/-- An operator behind an expression. -/
theorem trailing (hword : Neutral word) {e : α → Expression Assembled}
    (h : Safe ((Reading.expression config).comap e) m) :
    Safe (.node config fun a => Predicate.operationNode word [e a]) m := by
  have hchange := ((Keeps.intercalate (by decide : Neutral " ")).comp
    (Keeps.inFront (List.forall_mem_singleton.mpr hword))).comp
    (Keeps.joinedItems neutral_defaultDelimiter)
  refine (h.token.through hchange).of_eq (fun a => ?_) fun a => ?_
  · exact (Node.complete_operator _ _ _ _).trans (and_iff_left (List.forall_mem_nil _))
  · rw [Reading.texts_node, Predicate.operationNode, List.map_singleton,
      Node.literalText_operator]
    rfl

/-- An operator between two expressions. -/
theorem operation (hword : Neutral word) {left : α → Expression Assembled}
    {right : β → Expression Assembled} (hm : Safe ((Reading.expression config).comap left) m)
    (hn : Safe ((Reading.expression config).comap right) n) :
    Safe (.node config fun p => Predicate.operationNode word [left p.1, right p.2])
      (m.pair n) := by
  have hitem := Keeps.joinedItems neutral_defaultDelimiter
  have hright := (hn.token.through hitem).through
    (Keeps.behind (List.forall_mem_singleton.mpr hword))
  refine (((hm.token.through hitem).pair hright).through
    (Keeps.intercalate (by decide : Neutral " "))).of_eq (fun p => ?_) fun p => ?_
  · simp [Predicate.operationNode, Node.complete_operator]
  · rw [Reading.texts_node, Predicate.operationNode, List.map_cons, Node.literalText_operator]
    simp

/-- An operator between an expression and a node. -/
theorem operationNode (hword : Neutral word) {e : α → Expression Assembled}
    {child : β → Node Assembled} (hm : Safe ((Reading.expression config).comap e) m)
    (hn : Safe (.node config child) n) :
    Safe (.node config fun p =>
      ⟨.operator word 1, [.expression (e p.1)], [child p.2], defaultDelimiter⟩) (m.pair n) := by
  have hitem := Keeps.joinedItems neutral_defaultDelimiter
  have hchild := hn.only.through (Keeps.behind (List.forall_mem_singleton.mpr hword))
  refine (((hm.token.through hitem).pair hchild).through
    (Keeps.intercalate (by decide : Neutral " "))).of_eq (fun p => ?_) fun p => ?_
  · exact Node.complete_operator _ _ _ _
  · rw [Reading.texts_node, Node.literalText_operator]
    rfl

end Safe

end SqlBuilder
