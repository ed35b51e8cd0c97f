import Mathlib.Data.List.DropRight
import SqlBuilder.Proofs.Assembly.Building

/-!
# Blocks of calls

What a sequence of calls on a tree says by itself, before any tree is built: which
nodes it leaves open (`Script.unended`), whether a call is out of place
(`Script.Misplaced`), and whether it is one balanced block that spells a node
(`Script.Block`). The state of a tree does not occur here.
-/

namespace SqlBuilder

variable {σ : Type}

/-! ## Calls -/

/-- A call on a tree: a step, or a visit by something that makes calls itself. -/
inductive Tree.Call (σ : Type) where
  | step (s : Step σ)
  | peek (calls : List (Tree.Call σ))

namespace Tree

mutual

def perform (t : Tree σ) : Call σ → Tree σ
  | .step s => t.apply s
  | .peek calls => t.performAll calls

/-- Performs calls in turn, a visitor's in the same tree. -/
def performAll (t : Tree σ) : List (Call σ) → Tree σ
  | [] => t
  | call :: rest => (t.perform call).performAll rest

end

mutual

def Call.inlined : Call σ → Script σ
  | .step s => [s]
  | .peek calls => Call.inlinedAll calls

/-- The steps of calls, those of visitors in their place. -/
def Call.inlinedAll : List (Call σ) → Script σ
  | [] => []
  | call :: rest => call.inlined ++ Call.inlinedAll rest

end

mutual

theorem perform_eq_run (t : Tree σ) : ∀ call : Call σ, t.perform call = t.run call.inlined
  | .step _ => rfl
  | .peek calls => performAll_eq_run t calls

theorem performAll_eq_run (t : Tree σ) : ∀ calls : List (Call σ),
    t.performAll calls = t.run (Call.inlinedAll calls)
  | [] => rfl
  | call :: rest => by
      rw [performAll, Call.inlinedAll, run_append, perform_eq_run t call,
        performAll_eq_run _ rest]

end

theorem run_concat (t : Tree σ) (w : Script σ) (s : Step σ) :
    t.run (w ++ [s]) = (t.run w).apply s := by
  rw [run_append]
  rfl

end Tree

/-! ## Since the last reset -/

def Step.isReset : Step σ → Bool
  | .reset => true
  | _ => false

def Step.rejection? : Step σ → Option String
  | .reject reason => some reason
  | _ => none

namespace Script

/-- The steps after the last reset. -/
def sinceReset (w : Script σ) : Script σ := w.rtakeWhile fun s => !s.isReset

theorem isReset_of_mem_sinceReset {w : Script σ} {s : Step σ} (hs : s ∈ sinceReset w) :
    s.isReset = false := by
  simpa using List.mem_rtakeWhile_imp hs

/-- A tree knows nothing of what was before a reset. -/
theorem run_sinceReset (w : Script σ) : Tree.run {} (sinceReset w) = Tree.run {} w := by
  induction w using List.reverseRecOn with
  | nil => rfl
  | append_singleton w s ih =>
      cases hs : s.isReset with
      | true =>
          cases s <;> cases hs
          rw [sinceReset, List.rtakeWhile_concat_neg _ _ _ (by simp [Step.isReset]),
            Tree.run_concat]
          rfl
      | false =>
          rw [sinceReset, List.rtakeWhile_concat_pos _ _ _ (by simp [hs]), Tree.run_concat,
            Tree.run_concat, ← ih]
          rfl

/-! ## Calls in their places -/

/-- How many started nodes are not yet ended, if so many were before a step. -/
def unendedAfter (before : Nat) : Step σ → Nat
  | .startNode _ _ => before + 1
  | .endNode => before - 1
  | .leaf _ | .leaves _ | .reject _ => before
  | .reset => 0

/-- How many started nodes are not yet ended. -/
def unended (w : Script σ) : Nat := w.foldl unendedAfter 0

theorem unended_concat (w : Script σ) (s : Step σ) :
    unended (w ++ [s]) = unendedAfter (unended w) s := List.foldl_concat ..

/-- Some step of a script is in a relation with the steps before it. -/
def Meets (w : Script σ) (R : Script σ → Step σ → Prop) : Prop :=
  ∃ before s behind, w = before ++ s :: behind ∧ R before s

section Meets

variable {R : Script σ → Step σ → Prop} {w : Script σ} {s : Step σ}

theorem not_meets_nil : ¬Meets [] R := by
  rintro ⟨before, s, behind, h, -⟩
  simp at h

theorem meets_concat : Meets (w ++ [s]) R ↔ Meets w R ∨ R w s := by
  constructor
  · rintro ⟨before, s', behind, h, hR⟩
    induction behind using List.reverseRecOn with
    | nil =>
        obtain ⟨hw, hs⟩ := List.append_inj' h rfl
        cases hs
        exact Or.inr (hw ▸ hR)
    | append_singleton behind last _ =>
        rw [← List.cons_append, ← List.append_assoc] at h
        obtain ⟨hw, -⟩ := List.append_inj' h rfl
        exact Or.inl ⟨before, s', behind, hw, hR⟩
  · rintro (⟨before, s', behind, rfl, hR⟩ | hR)
    · exact ⟨before, s', behind ++ [s], by simp, hR⟩
    · exact ⟨w, s, [], rfl, hR⟩

end Meets

/-- A node was ended that stood in no other one. -/
def RootEnded (w : Script σ) : Prop :=
  w.Meets fun before s => s = .endNode ∧ before.unended = 1

/-- A step is out of place: it ends a node or adds leaves where no node is open, or
it starts a second root. -/
def OutOfPlace (before : Script σ) : Step σ → Prop
  | .startNode _ _ => before.unended = 0 ∧ before.RootEnded
  | .endNode | .leaf _ | .leaves _ => before.unended = 0
  | .reject _ | .reset => False

def Misplaced (w : Script σ) : Prop := w.Meets OutOfPlace

/-! ## Balanced blocks -/

/-- Steps that stand inside a node and give it some leaves and children: leaf
steps, and balanced blocks for the children. -/
inductive Content : Script σ → List (Token σ) → List (Node σ) → Prop where
  | nil : Content [] [] []
  | leaf {w : Script σ} {leaves : List (Token σ)} {children : List (Node σ)}
      (h : Content w leaves children) (token : Token σ) :
      Content (w ++ [.leaf token]) (leaves ++ [token]) children
  | leaves {w : Script σ} {leaves : List (Token σ)} {children : List (Node σ)}
      (h : Content w leaves children) (tokens : List (Token σ)) :
      Content (w ++ [.leaves tokens]) (leaves ++ tokens) children
  | node {w inner : Script σ} {leaves innerLeaves : List (Token σ)}
      {children innerChildren : List (Node σ)} (h : Content w leaves children)
      (hinner : Content inner innerLeaves innerChildren) (metadata : Metadata σ)
      (delimiter : String) :
      Content (w ++ Script.node metadata inner delimiter) leaves
        (children ++ [⟨metadata, innerLeaves, innerChildren, delimiter⟩])

/-- The script is one balanced block, and says what the node is at every level. -/
def Block (w : Script σ) (n : Node σ) : Prop :=
  ∃ inner, w = Script.node n.metadata inner n.delimiter ∧ Content inner n.leaves n.children

theorem Content.builds {w : Script σ} {leaves : List (Token σ)} {children : List (Node σ)}
    (h : Content w leaves children) : w.Builds leaves children none := by
  induction h with
  | nil => exact Builds.nil
  | leaf _ token ih => simpa using ih.append (Builds.leaf token)
  | leaves _ tokens ih => simpa using ih.append (Builds.leaves tokens)
  | node _ _ metadata delimiter ih ihinner =>
      simpa using ih.append (ihinner.node metadata delimiter)

/-- A block builds its node. -/
theorem Block.root {w : Script σ} {n : Node σ} (h : Block w n) :
    (Tree.run {} w).root = .ok n := by
  obtain ⟨inner, rfl, hinner⟩ := h
  exact (Script.Forms.root ⟨inner, rfl, hinner.builds⟩ : _ = Except.ok n)

/-- Steps that leave nodes open, the innermost first, each with its content so far. -/
inductive Opens : Script σ → List (Node σ) → Prop where
  | nil : Opens [] []
  | node {w inner : Script σ} {outer : List (Node σ)} {leaves : List (Token σ)}
      {children : List (Node σ)} (houter : Opens w outer) (h : Content inner leaves children)
      (metadata : Metadata σ) (delimiter : String) :
      Opens (w ++ .startNode metadata delimiter :: inner)
        (⟨metadata, leaves, children, delimiter⟩ :: outer)

/-- An open node takes more content, at the end of the steps. -/
theorem Opens.extend {w more : Script σ} {top : Node σ} {rest : List (Node σ)}
    {leaves : List (Token σ)} {children : List (Node σ)} (h : Opens w (top :: rest))
    (hmore : ∀ inner, Content inner top.leaves top.children →
      Content (inner ++ more) leaves children) :
    Opens (w ++ more) (⟨top.metadata, leaves, children, top.delimiter⟩ :: rest) := by
  cases h with
  | node houter hcontent metadata delimiter =>
      rw [List.append_assoc, List.cons_append]
      exact houter.node (hmore _ hcontent) metadata delimiter

end Script

end SqlBuilder
