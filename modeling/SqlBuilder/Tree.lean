import SqlBuilder.Event
import SqlBuilder.Node

/-!
# Trees

A tree is built by steps: nodes are started and ended, and leaves go to the
innermost open node. What assembles itself is a *script* of such steps, and
scripts are put together by appending them.

A tree never refuses a step. It remembers the first step that was out of
place and the first rejection, and tells them when it is asked for its root.
-/

namespace SqlBuilder

variable {σ : Type}

/-- One step in building a tree. -/
inductive Step (σ : Type) where
  | startNode (metadata : Metadata σ) (delimiter : String := defaultDelimiter)
  | endNode
  | leaf (token : Token σ)
  | leaves (tokens : List (Token σ))
  /-- Declares the statement invalid. -/
  | reject (reason : String)
  /-- Forgets everything. -/
  | reset

abbrev Script (σ : Type) := List (Step σ)

namespace Script

/-- A node around the steps of its content. -/
def node (metadata : Metadata σ) (content : Script σ)
    (delimiter : String := defaultDelimiter) : Script σ :=
  .startNode metadata delimiter :: (content ++ [.endNode])

end Script

/-- A tree under construction. -/
structure Tree (σ : Type) where
  /-- The open nodes, the innermost first. -/
  stack : List (Node σ) := []
  /-- The root, once it has been ended. -/
  completed : Option (Node σ) := none
  /-- The first step that was out of place. -/
  misuse : Option Misuse := none
  /-- The first reason for which the statement was declared invalid. -/
  rejection : Option String := none

namespace Tree

/-- How many nodes are open. -/
def openNodes (t : Tree σ) : Nat := t.stack.length

/-- How a step is out of place: there is one root, and only an open node can
be ended or take leaves. -/
def misuse? (t : Tree σ) : Step σ → Option Misuse
  | .startNode _ _ =>
      if t.stack.isEmpty && t.completed.isSome then some .secondRoot else none
  | .endNode => if t.stack.isEmpty then some .endWithoutOpenNode else none
  | .leaf _ => if t.stack.isEmpty then some .leafWithoutOpenNode else none
  | .leaves _ => if t.stack.isEmpty then some .leavesWithoutOpenNode else none
  | .reject _ => none
  | .reset => none

/-- Changes the innermost open node, if there is one. -/
def modifyTop (t : Tree σ) (f : Node σ → Node σ) : Tree σ :=
  match t.stack with
  | [] => t
  | top :: rest => { t with stack := f top :: rest }

/-- Ends the innermost open node: it becomes a child of the next one, or the
root. -/
def close (t : Tree σ) : Tree σ :=
  match t.stack with
  | [] => t
  | [node] => { t with stack := [], completed := some node }
  | node :: parent :: rest => { t with stack := parent.addChild node :: rest }

def apply (t : Tree σ) (step : Step σ) : Tree σ :=
  let t := { t with misuse := t.misuse <|> t.misuse? step }
  match step with
  | .startNode metadata delimiter =>
      { t with stack := { metadata, delimiter } :: t.stack }
  | .endNode => t.close
  | .leaf token => t.modifyTop (·.addLeaf token)
  | .leaves tokens => t.modifyTop (·.addLeaves tokens)
  | .reject reason => { t with rejection := t.rejection <|> some reason }
  | .reset => {}

/-- What is noted when a step is taken. -/
def events (t : Tree σ) (step : Step σ) : List Event :=
  match step with
  | .reject reason => [.rejected reason]
  | step => (t.misuse? step).toList.map .brokenTree

/-- Takes the steps of a script in turn. -/
def run (t : Tree σ) (script : Script σ) : Tree σ := script.foldl apply t

/-- What is noted when the steps of a script are taken in turn. -/
def log (t : Tree σ) : Script σ → List Event
  | [] => []
  | step :: rest => t.events step ++ (t.apply step).log rest

/-- The root of a tree. A misuse is told first, then nodes that are still
open, then a rejection, and last that nothing was assembled. -/
def root (t : Tree σ) : Except BuilderError (Node σ) :=
  match t.misuse, t.stack, t.rejection, t.completed with
  | some misuse, _, _, _ => .error (.brokenTree (.misused misuse))
  | none, _ :: _, _, _ => .error (.brokenTree (.stillOpen t.openNodes))
  | none, [], some reason, _ => .error (.invalidStatement reason)
  | none, [], none, none => .error .emptyTree
  | none, [], none, some node => .ok node

@[simp] theorem run_nil (t : Tree σ) : t.run [] = t := rfl

@[simp] theorem run_cons (t : Tree σ) (step : Step σ) (rest : Script σ) :
    t.run (step :: rest) = (t.apply step).run rest := rfl

theorem run_append (t : Tree σ) (a b : Script σ) :
    t.run (a ++ b) = (t.run a).run b := List.foldl_append

end Tree

/-- What can be assembled into a tree. -/
class Assemble (α : Type) (σ : outParam Type) where
  /-- The steps that assemble it. -/
  script : α → Script σ

instance : Assemble (Script σ) σ := ⟨id⟩

/-- The tree of something assembled on its own. -/
def Tree.of {α : Type} [Assemble α σ] (a : α) : Tree σ := Tree.run {} (Assemble.script a)

end SqlBuilder
