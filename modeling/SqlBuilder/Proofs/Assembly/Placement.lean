import SqlBuilder.Proofs.Nesting.Builder
import SqlBuilder.Proofs.Rendering.Text

/-!
# The same node wherever it is assembled

A builder is one node around its content (`Builder.forms`), and that node does
not depend on the tree in which it is assembled: in an open node it is one more
child, in a new tree it is the root. What surrounds it is left as it was, and a
rejection is all that it may add.

For rendering this means that a statement is rendered in its place as it is by
itself. `Formatter.renderAmong` renders a statement by itself, between other
nodes; the body of a WITH statement and the query of an INSERT come out as that
(`assembled_in_place`).
-/

namespace SqlBuilder

/-! ## Rendering among other nodes -/

/-- Renders something between nodes, and puts spaces between the texts that show. -/
def Render.among (style : Style) (inFront : List (Node Assembled)) (middle : Render String)
    (behind : List (Node Assembled)) : Render String := do
  let front ← Node.renderAll style inFront
  let text ← middle
  let back ← Node.renderAll style behind
  return " ".intercalate ((front ++ text :: back).filter (· != ""))

@[simp] theorem Render.among_nothing (style : Style) (middle : Render String) :
    Render.among style [] middle [] = middle := by
  have hshown (text : String) : " ".intercalate ([text].filter (· != "")) = text := by
    by_cases h : text = "" <;> simp [h]
  simp [Render.among, Node.renderAll, hshown]

theorem Node.renderAll_append (style : Style) (as bs : List (Node Assembled)) :
    Node.renderAll style (as ++ bs) = do
      let front ← Node.renderAll style as
      let back ← Node.renderAll style bs
      return front ++ back := by
  induction as with
  | nil => simp [Node.renderAll]
  | cons a rest ih => simp [Node.renderAll, ih]

/-- A plain node renders each child among its siblings. -/
theorem Node.render_among (style : Style) (inFront : List (Node Assembled)) (n : Node Assembled)
    (behind : List (Node Assembled)) :
    Node.render style ⟨.empty, [], inFront ++ n :: behind, defaultDelimiter⟩
      = Render.among style inFront (n.render style) behind := by
  have hlayout (texts : List String) :
      Metadata.layout (⟨none, 0, false, false⟩ : Metadata Assembled) defaultDelimiter [] none texts
        = " ".intercalate (texts.filter (· != "")) := by
    simp [Metadata.layout, joinedItems]
  rw [Metadata.empty, Node.render, Render.among]
  simp [Token.renderAll, Token.renderOption, Node.renderAll_append, Node.renderAll, hlayout]

/-- Between the same nodes, all that denotes one thing is rendered alike. -/
theorem Denotes.among (style : Style) (inFront behind : List (Node Assembled))
    (xs : List Encounter) (result : Nat → String) :
    ∃ whole, ∀ middle, Denotes style middle xs result →
      Denotes style (Render.among style inFront middle behind)
        (Node.encountersAll inFront ++ (xs ++ Node.encountersAll behind)) whole :=
  ⟨_, fun _ hmiddle => Denotes.bind (Node.denotesAll style inFront) fun _ =>
    Denotes.bind hmiddle fun _ => (Node.denotesAll style behind).map _⟩

namespace Formatter

/-- The same text or error, and the same parameters afterwards. -/
def SameOutcome (x y : Except BuilderError String × Formatter) : Prop :=
  x.1 = y.1 ∧ x.2.params = y.2.params

theorem SameOutcome.of_denotes (f : Formatter) {a b : Style → Render String}
    {xs : List Encounter} {result : Nat → String} (ha : Denotes f.style (a f.style) xs result)
    (hb : Denotes f.style (b f.style) xs result) : SameOutcome (f.run a) (f.run b) :=
  ⟨(ha.outcome f.collected).trans (hb.outcome f.collected).symm,
    (ha.params f.collected).trans (hb.params f.collected).symm⟩

/-- Renders a statement as it is by itself, but between nodes. -/
def renderAmong {α : Type} [Assemble α Assembled] (f : Formatter)
    (inFront : List (Node Assembled)) (statement : α) (behind : List (Node Assembled)) :
    Except BuilderError String × Formatter :=
  f.run fun style => Render.among style inFront
    ((Assembled.ofScript (Assemble.script statement)).render style) behind

variable {α β : Type} [Assemble α Assembled] [Assemble β Assembled]

theorem renderAmong_nothing (f : Formatter) (statement : α) :
    f.renderAmong [] statement [] = f.renderStatement statement := by
  unfold renderAmong renderStatement
  simp only [Render.among_nothing]

/-- If a script forms the node of another among its children, then rendering the
one is rendering the other between the remaining children. -/
theorem renderStatement_among (f : Formatter) {whole : α} {part : β} {n : Node Assembled}
    {inFront behind : List (Node Assembled)}
    (hwhole : (Assemble.script whole).Forms
      ⟨.empty, [], inFront ++ n :: behind, defaultDelimiter⟩ none)
    (hpart : (Assemble.script part).Forms n none) :
    SameOutcome (f.renderStatement whole) (f.renderAmong inFront part behind) := by
  unfold renderStatement renderAmong
  rw [hwhole.assembled, hpart.assembled]
  simp only [Option.elim_none]
  obtain ⟨result, hresult⟩ := Denotes.among f.style inFront behind n.encounters
    fun before => (n.template f.style.config).fill (f.style.filling before)
  have hnode := hresult _ (n.denotes f.style)
  have hstatement := hresult _ ((n.denotes f.style).afterNote (Tree.log {} (Assemble.script part)))
  rw [← Node.render_among] at hnode
  have hwhole := hnode.afterNote (Tree.log {} (Assemble.script whole))
  rw [← Assembled.render] at hwhole hstatement
  exact SameOutcome.of_denotes f hwhole hstatement

theorem renderStatement_same_rejection (f : Formatter) {a : α} {b : β} {n m : Node Assembled}
    {reason : String} (ha : (Assemble.script a).Forms n (some reason))
    (hb : (Assemble.script b).Forms m (some reason)) :
    SameOutcome (f.renderStatement a) (f.renderStatement b) := by
  unfold renderStatement
  rw [ha.assembled, hb.assembled]
  exact ⟨rfl, rfl⟩

end Formatter

/-- Every builder assembles to one node, in every tree with an open node and in a new
one. In the open node it is the last child, and nothing else of the tree changes,
except that a statement not yet rejected is rejected if an update lacks its
assignments. In a new tree it is the root.

Hence a statement is rendered in its place as it is by itself: as the body of a
WITH statement behind the common tables, and as the query of an INSERT between the
target and what follows. A body that is rejected takes the WITH statement with it. -/
theorem assembled_in_place :
    (∀ (σ : Type) (b : Builder σ), ∃ root : Node σ,
      let reason := if b.lacksAssignment then some Update.noAssignment else none
      (∀ (top : Node σ) (outer : List (Node σ)) (completed : Option (Node σ))
          (misuse : Option Misuse) (rejection : Option String),
        Tree.run ⟨top :: outer, completed, misuse, rejection⟩ b.script
          = ⟨top.addChild root :: outer, completed, misuse, rejection.or reason⟩)
      ∧ Tree.run {} b.script = ⟨[], some root, none, reason⟩)
    ∧ ∀ f : Formatter,
      (∀ (b : Builder Assembled) (isRecursive : Bool)
          (expressions : List (CommonTableExpression Assembled)),
        let inside := f.renderStatement (Builder.with_ isRecursive expressions (some b))
        if b.lacksAssignment then
          Formatter.SameOutcome inside (f.renderStatement b)
        else
          Formatter.SameOutcome inside
            (f.renderAmong (With.expressionNodes { isRecursive, expressions }) b []))
      ∧ (∀ (i : Insert Assembled) (s : Select Assembled),
          Formatter.SameOutcome (f.renderStatement (i.select s))
            (f.renderAmong [i.targetNode] s
              ((if i.skipsConflicts then [Clause.bareNode Keyword.onConflictDoNothing] else [])
                ++ Clause.listNodes Keyword.returning i.results)))
      ∧ ∀ b : Builder Assembled, f.renderAmong [] b [] = f.renderStatement b := by
  refine ⟨fun σ b => ⟨b.node, ?_, ?_⟩, fun f => ⟨fun b isRecursive expressions => ?_,
    fun i s => ?_, fun b => f.renderAmong_nothing b⟩⟩
  · intro top outer completed misuse rejection
    rw [← b.rejection_eq, b.forms.builds _ top outer rfl, List.append_nil]
    rfl
  · rw [← b.rejection_eq]
    exact b.forms.run_fresh
  · have hinside := (Builder.with_ isRecursive expressions (some b)).forms
    have hb := b.forms
    simp only [Builder.rejection] at hinside
    rw [b.rejection_eq] at hinside hb
    cases hlacks : b.lacksAssignment with
    | true =>
        rw [hlacks] at hinside hb
        exact f.renderStatement_same_rejection hinside hb
    | false =>
        rw [hlacks] at hinside hb
        exact f.renderStatement_among hinside hb
  · refine f.renderStatement_among ?_ s.forms
    have hinsert := (i.select s).forms
    rw [Insert.node, List.append_assoc] at hinsert
    exact hinsert

end SqlBuilder
