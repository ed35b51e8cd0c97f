import SqlBuilder.Proofs.Trees.Blocks

/-!
# The root of a tree

A tree gives a root if and only if the calls since its last reset are one
balanced block, and this root is the node that the block spells
(`Tree.root_spelled`). What the fields of a tree say of the calls is kept by every
step (`Tree.After.step`). The misuse and the rejection stay once they are there; as
long as there is neither, the open nodes and the root are a parse of the calls so
far (`Tree.Parse.step`).
-/

namespace SqlBuilder

variable {σ : Type}

open Script

namespace Tree

variable {w : Script σ} {t : Tree σ} {s : Step σ}

/-! ## What the fields say -/

theorem openNodes_apply (t : Tree σ) (s : Step σ) :
    (t.apply s).openNodes = unendedAfter t.openNodes s := by
  obtain ⟨stack, completed, misuse, rejection⟩ := t
  cases s with
  | endNode => rcases stack with _ | ⟨n, _ | ⟨parent, rest⟩⟩ <;> rfl
  | leaf token => cases stack <;> rfl
  | leaves tokens => cases stack <;> rfl
  | startNode _ _ | reject _ | reset => rfl

/-- A tree after calls without a reset. -/
structure After (w : Script σ) (t : Tree σ) : Prop where
  openNodes : t.openNodes = w.unended
  completed : t.completed.isSome ↔ w.RootEnded
  misuse : t.misuse.isSome ↔ w.Misplaced
  /-- The first reason stays. -/
  rejection : t.rejection = w.findSome? Step.rejection?

theorem After.start : After [] ({} : Tree σ) where
  openNodes := rfl
  completed := iff_of_false nofun not_meets_nil
  misuse := iff_of_false nofun not_meets_nil
  rejection := rfl

theorem After.stack_isEmpty_iff (h : After w t) : t.stack.isEmpty ↔ w.unended = 0 := by
  rw [← h.openNodes, Tree.openNodes, List.isEmpty_iff, List.length_eq_zero_iff]

theorem After.misuse?_iff (h : After w t) : (t.misuse? s).isSome ↔ OutOfPlace w s := by
  have hempty := h.stack_isEmpty_iff
  have hended := h.completed
  cases s with
  | startNode metadata delimiter =>
      rw [misuse?, OutOfPlace, ← hempty, ← hended, ← Bool.and_eq_true]
      split <;> simp_all
  | endNode | leaf _ | leaves _ =>
      rw [misuse?, OutOfPlace, ← hempty]
      split <;> simp_all
  | reject _ | reset => exact iff_of_false Bool.false_ne_true id

theorem apply_misuse (hs : s.isReset = false) :
    (t.apply s).misuse = t.misuse.or (t.misuse? s) := by
  obtain ⟨stack, completed, misuse, rejection⟩ := t
  cases s with
  | reset => cases hs
  | endNode => rcases stack with _ | ⟨n, _ | ⟨parent, rest⟩⟩ <;> cases misuse <;> rfl
  | leaf _ | leaves _ => cases stack <;> cases misuse <;> rfl
  | startNode _ _ | reject _ => cases misuse <;> rfl

theorem apply_rejection (hs : s.isReset = false) :
    (t.apply s).rejection = t.rejection.or s.rejection? := by
  obtain ⟨stack, completed, misuse, rejection⟩ := t
  cases s with
  | reset => cases hs
  | endNode => rcases stack with _ | ⟨n, _ | ⟨parent, rest⟩⟩ <;> cases rejection <;> rfl
  | leaf _ | leaves _ => cases stack <;> cases rejection <;> rfl
  | startNode _ _ | reject _ => cases rejection <;> rfl

theorem apply_completed (hs : s.isReset = false) :
    (t.apply s).completed.isSome ↔ t.completed.isSome ∨ s = .endNode ∧ t.openNodes = 1 := by
  obtain ⟨stack, completed, misuse, rejection⟩ := t
  cases s with
  | reset => cases hs
  | endNode =>
      rcases stack with _ | ⟨n, _ | ⟨parent, rest⟩⟩ <;>
        simp [apply, close, openNodes]
  | leaf _ | leaves _ => cases stack <;> simp [apply, modifyTop]
  | startNode _ _ | reject _ => simp [apply]

/-- What the fields say stays true with one more step. -/
theorem After.step (h : After w t) (hs : s.isReset = false) : After (w ++ [s]) (t.apply s) where
  openNodes := by rw [openNodes_apply, unended_concat, h.openNodes]
  completed := by
    rw [apply_completed hs, RootEnded, meets_concat, h.completed, h.openNodes]
    rfl
  misuse := by
    rw [apply_misuse hs, Misplaced, meets_concat, ← h.misuse?_iff, ← Misplaced, ← h.misuse,
      Option.isSome_or, Bool.or_eq_true]
  rejection := by
    rw [apply_rejection hs, List.findSome?_append, h.rejection]
    cases hs : s.rejection? <;> simp [hs]

/-! ## The parse of the calls so far -/

/-- With all calls in their places and none of them a rejection, the open nodes
are what the calls leave open; and if there is a root, the calls are its block. -/
def Parse (w : Script σ) (t : Tree σ) : Prop :=
  (t.completed = none ∧ Opens w t.stack)
    ∨ ∃ n, t.completed = some n ∧ t.stack = [] ∧ Block w n

theorem Parse.opens {top : Node σ} {rest : List (Node σ)} (h : Parse w t)
    (hstack : t.stack = top :: rest) : t.completed = none ∧ Opens w (top :: rest) := by
  rcases h with ⟨hcompleted, hopens⟩ | ⟨n, -, hnone, -⟩
  · exact ⟨hcompleted, hstack ▸ hopens⟩
  · cases hstack.symm.trans hnone

theorem Parse.startNode (metadata : Metadata σ) (delimiter : String) (h : Parse w t)
    (hplace : t.misuse? (.startNode metadata delimiter) = none) :
    Parse (w ++ [.startNode metadata delimiter]) (t.apply (.startNode metadata delimiter)) := by
  rcases h with ⟨hcompleted, hopens⟩ | ⟨n, hcompleted, hstack, -⟩
  · exact Or.inl ⟨hcompleted, hopens.node .nil metadata delimiter⟩
  · simp [misuse?, hcompleted, hstack] at hplace

theorem Parse.endNode (h : Parse w t) (hplace : t.misuse? .endNode = none) :
    Parse (w ++ [.endNode]) (t.apply .endNode) := by
  obtain ⟨stack, completed, misuse, rejection⟩ := t
  cases stack with
  | nil => simp [misuse?] at hplace
  | cons top rest =>
      obtain ⟨rfl, hopens⟩ := h.opens rfl
      cases hopens with
      | @node outer inner _ leaves children houter hcontent metadata delimiter =>
          have hnode : outer ++ .startNode metadata delimiter :: inner ++ [.endNode]
              = outer ++ Script.node metadata inner delimiter := by
            rw [List.append_assoc]
            rfl
          rw [hnode]
          cases rest with
          | nil =>
              cases houter
              exact Or.inr ⟨_, rfl, rfl, inner, rfl, hcontent⟩
          | cons parent rest =>
              exact Or.inl ⟨rfl, houter.extend fun _ hparent =>
                hparent.node hcontent metadata delimiter⟩

theorem Parse.leaf (token : Token σ) (h : Parse w t)
    (hplace : t.misuse? (.leaf token) = none) :
    Parse (w ++ [.leaf token]) (t.apply (.leaf token)) := by
  obtain ⟨stack, completed, misuse, rejection⟩ := t
  cases stack with
  | nil => simp [misuse?] at hplace
  | cons top rest =>
      obtain ⟨rfl, hopens⟩ := h.opens rfl
      exact Or.inl ⟨rfl, hopens.extend fun _ hcontent => hcontent.leaf token⟩

theorem Parse.leaves (tokens : List (Token σ)) (h : Parse w t)
    (hplace : t.misuse? (.leaves tokens) = none) :
    Parse (w ++ [.leaves tokens]) (t.apply (.leaves tokens)) := by
  obtain ⟨stack, completed, misuse, rejection⟩ := t
  cases stack with
  | nil => simp [misuse?] at hplace
  | cons top rest =>
      obtain ⟨rfl, hopens⟩ := h.opens rfl
      exact Or.inl ⟨rfl, hopens.extend fun _ hcontent => hcontent.leaves tokens⟩

/-- A step that is in its place and no rejection goes on with the parse. -/
theorem Parse.step (h : Parse w t) (hs : s.isReset = false) (hplace : t.misuse? s = none)
    (hrejection : s.rejection? = none) : Parse (w ++ [s]) (t.apply s) := by
  cases s with
  | startNode metadata delimiter => exact h.startNode metadata delimiter hplace
  | endNode => exact h.endNode hplace
  | leaf token => exact h.leaf token hplace
  | leaves tokens => exact h.leaves tokens hplace
  | reject reason => cases hrejection
  | reset => cases hs

/-! ## Runs -/

/-- What is known of a tree after calls without a reset. -/
theorem run_after (hw : ∀ s ∈ w, s.isReset = false) :
    After w (Tree.run {} w)
      ∧ ((Tree.run {} w).misuse = none → (Tree.run {} w).rejection = none →
          Parse w (Tree.run {} w)) := by
  induction w using List.reverseRecOn with
  | nil => exact ⟨After.start, fun _ _ => Or.inl ⟨rfl, .nil⟩⟩
  | append_singleton w s ih =>
      obtain ⟨hbefore, hlast⟩ := List.forall_mem_append.mp hw
      have hs : s.isReset = false := hlast s (List.mem_singleton_self s)
      obtain ⟨hafter, hparse⟩ := ih hbefore
      rw [run_concat]
      refine ⟨hafter.step hs, fun hmisuse hrejection => ?_⟩
      rw [apply_misuse hs, Option.or_eq_none_iff] at hmisuse
      rw [apply_rejection hs, Option.or_eq_none_iff] at hrejection
      exact (hparse hmisuse.1 hrejection.1).step hs hmisuse.2 hrejection.2

theorem root_eq_ok_iff {n : Node σ} :
    t.root = .ok n
      ↔ t.misuse = none ∧ t.stack = [] ∧ t.rejection = none ∧ t.completed = some n := by
  obtain ⟨stack, completed, misuse, rejection⟩ := t
  cases misuse <;> cases stack <;> cases rejection <;> cases completed <;> simp [root]

/-- For calls on a new tree, with `w` those since the last reset: the root is `n` if
and only if `w` is one balanced block that spells `n`. If not, a step out of place
is told first, then nodes that are still open, then the first rejection, and last
that there is nothing. The open nodes are those that `w` does not end. -/
theorem root_spelled (calls : List (Call σ)) :
    let t := Tree.performAll {} calls
    let w := sinceReset (Call.inlinedAll calls)
    (∀ n, t.root = .ok n ↔ Block w n)
    ∧ (w.Misplaced → ∃ misuse, t.root = .error (.brokenTree (.misused misuse)))
    ∧ (¬w.Misplaced → 0 < w.unended → t.root = .error (.brokenTree (.stillOpen w.unended)))
    ∧ (¬w.Misplaced → w.unended = 0 → ∀ reason, w.findSome? Step.rejection? = some reason →
        t.root = .error (.invalidStatement reason))
    ∧ (¬w.Misplaced → w.unended = 0 → w.findSome? Step.rejection? = none →
        (∀ n, ¬Block w n) → t.root = .error .emptyTree)
    ∧ t.openNodes = w.unended := by
  intro t w
  have ht : t = Tree.run {} w := (performAll_eq_run {} calls).trans (run_sinceReset _).symm
  obtain ⟨hafter, hparse⟩ := run_after fun s (hs : s ∈ w) => isReset_of_mem_sinceReset hs
  rw [← ht] at hafter hparse
  have hplaced (h : ¬w.Misplaced) : t.misuse = none := by
    rwa [← hafter.misuse, Option.not_isSome_iff_eq_none] at h
  have hclosed (h : w.unended = 0) : t.stack = [] :=
    List.isEmpty_iff.mp (hafter.stack_isEmpty_iff.mpr h)
  refine ⟨fun n => ⟨fun h => ?_, fun h => ?_⟩, fun h => ?_, fun h hopen => ?_,
    fun h hnone reason hreason => ?_, fun h hnone hreason hblock => ?_, hafter.openNodes⟩
  · obtain ⟨hmisuse, hstack, hrejection, hcompleted⟩ := root_eq_ok_iff.mp h
    rcases hparse hmisuse hrejection with ⟨hnone, -⟩ | ⟨n', hn', -, hblock⟩
    · cases hnone.symm.trans hcompleted
    · obtain rfl := Option.some.inj (hn'.symm.trans hcompleted)
      exact hblock
  · rw [ht]
    exact h.root
  · obtain ⟨misuse, hmisuse⟩ := Option.isSome_iff_exists.mp (hafter.misuse.mpr h)
    exact ⟨misuse, by rw [root, hmisuse]⟩
  · rw [← hafter.openNodes] at hopen ⊢
    obtain ⟨top, rest, hstack⟩ := List.exists_cons_of_length_pos hopen
    rw [root, hplaced h, hstack]
  · rw [root, hplaced h, hclosed hnone, hafter.rejection, hreason]
  · rw [← hafter.rejection] at hreason
    rcases hparse (hplaced h) hreason with ⟨hcompleted, -⟩ | ⟨n, -, -, hn⟩
    · rw [root, hplaced h, hclosed hnone, hreason, hcompleted]
    · exact absurd hn (hblock n)

end Tree

end SqlBuilder
