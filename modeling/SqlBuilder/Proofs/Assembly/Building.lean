import SqlBuilder.Assembled

/-!
# What scripts build

A script whose nodes are all ended leaves a definite content in the node that
is open when it runs: some leaves, some children, perhaps a rejection. That is
`Script.Builds`, for every tree with an open node; nothing else of the tree
changes. Its laws follow the forms of scripts, and `Builds.root` says what such
a content makes of a tree of its own.
-/

namespace SqlBuilder

variable {σ : Type}

/-- In every tree with an open node, the script adds leaves and children to
that node and may reject the statement. -/
def Script.Builds (s : Script σ) (leaves : List (Token σ)) (children : List (Node σ))
    (rejection : Option String) : Prop :=
  ∀ (t : Tree σ) (top : Node σ) (rest : List (Node σ)), t.stack = top :: rest →
    t.run s =
      { t with
        stack := ⟨top.metadata, top.leaves ++ leaves, top.children ++ children, top.delimiter⟩
          :: rest
        rejection := t.rejection.or rejection }

namespace Script.Builds

theorem nil : Builds ([] : Script σ) [] [] none := by
  rintro ⟨stack, completed, misuse, rejection⟩ ⟨metadata, leaves, children, delimiter⟩ rest rfl
  simp

theorem append {a b : Script σ} {la lb : List (Token σ)} {ca cb : List (Node σ)}
    {ra rb : Option String} (ha : Builds a la ca ra) (hb : Builds b lb cb rb) :
    Builds (a ++ b) (la ++ lb) (ca ++ cb) (ra.or rb) := by
  intro t top rest htop
  rw [Tree.run_append, ha t top rest htop, hb _ _ rest rfl]
  simp [List.append_assoc, Option.or_assoc]

theorem leaf (token : Token σ) : Builds [.leaf token] [token] [] none := by
  rintro ⟨stack, completed, misuse, rejection⟩ top rest rfl
  cases misuse <;> simp [Tree.apply, Tree.misuse?, Tree.modifyTop, Node.addLeaf]

theorem leaves (tokens : List (Token σ)) : Builds [.leaves tokens] tokens [] none := by
  rintro ⟨stack, completed, misuse, rejection⟩ top rest rfl
  cases misuse <;> simp [Tree.apply, Tree.misuse?, Tree.modifyTop, Node.addLeaves]

theorem reject (reason : String) : Builds ([.reject reason] : Script σ) [] [] (some reason) := by
  rintro ⟨stack, completed, misuse, rejection⟩ ⟨metadata, leaves, children, delimiter⟩ rest rfl
  cases misuse <;> cases rejection <;> simp [Tree.apply, Tree.misuse?]

/-- A node around a content is one child. -/
theorem node {content : Script σ} {leaves : List (Token σ)} {children : List (Node σ)}
    {rejection : Option String} (h : Builds content leaves children rejection)
    (metadata : Metadata σ) (delimiter : String) :
    Builds (Script.node metadata content delimiter) []
      [⟨metadata, leaves, children, delimiter⟩] rejection := by
  rintro ⟨stack, completed, misuse, rejected⟩ top rest rfl
  have hstart : Tree.apply ⟨top :: rest, completed, misuse, rejected⟩
      (.startNode metadata delimiter)
      = ⟨⟨metadata, [], [], delimiter⟩ :: top :: rest, completed, misuse, rejected⟩ := by
    cases misuse <;> simp [Tree.apply, Tree.misuse?]
  rw [Script.node, Tree.run_cons, hstart, Tree.run_append, h _ _ _ rfl]
  cases misuse <;> simp [Tree.apply, Tree.misuse?, Tree.close, Node.addChild]

/-- Scripts one after the other, each of which builds one node. -/
theorem flatMap {α : Type} {script : α → Script σ} {built : α → Node σ} {as : List α}
    (h : ∀ a ∈ as, Builds (script a) [] [built a] none) :
    Builds (as.flatMap script) [] (as.map built) none := by
  induction as with
  | nil => exact nil
  | cons a rest ih =>
      have ha := h a (List.mem_cons_self ..)
      have hrest := ih fun b hb => h b (List.mem_cons_of_mem _ hb)
      exact ha.append hrest

end Script.Builds

/-- The script is one node around a content. -/
def Script.Forms (s : Script σ) (n : Node σ) (rejection : Option String) : Prop :=
  ∃ content : Script σ, s = Script.node n.metadata content n.delimiter
    ∧ content.Builds n.leaves n.children rejection

theorem Script.Builds.forms {content : Script σ} {leaves : List (Token σ)}
    {children : List (Node σ)} {rejection : Option String}
    (h : content.Builds leaves children rejection) (metadata : Metadata σ)
    (delimiter : String) :
    (Script.node metadata content delimiter).Forms ⟨metadata, leaves, children, delimiter⟩
      rejection :=
  ⟨content, rfl, h⟩

namespace Script.Forms

variable {s : Script σ} {n : Node σ} {rejection : Option String}

/-- In an open node, it is one more child. -/
theorem builds (h : s.Forms n rejection) : s.Builds [] [n] rejection := by
  obtain ⟨metadata, leaves, children, delimiter⟩ := n
  obtain ⟨content, rfl, hcontent⟩ := h
  exact hcontent.node metadata delimiter

/-- A new tree is left with this one node, and with nothing open or out of place. -/
theorem run_fresh (h : s.Forms n rejection) :
    Tree.run {} s = { completed := some n, rejection } := by
  obtain ⟨metadata, leaves, children, delimiter⟩ := n
  obtain ⟨content, rfl, hcontent⟩ := h
  have hstart : Tree.apply {} (.startNode metadata delimiter)
      = { stack := [⟨metadata, [], [], delimiter⟩] } := rfl
  simp only [Script.node, Tree.run_cons, hstart, Tree.run_append]
  rw [hcontent _ _ _ rfl]
  rfl

/-- In a tree of its own, it is the root, unless it is rejected. -/
theorem root (h : s.Forms n rejection) :
    (Tree.run {} s).root
      = rejection.elim (.ok n) fun reason => .error (.invalidStatement reason) := by
  rw [h.run_fresh]
  cases rejection <;> rfl

end Script.Forms

end SqlBuilder
