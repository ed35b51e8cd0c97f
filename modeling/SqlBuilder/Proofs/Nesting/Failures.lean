import SqlBuilder.Proofs.Nesting.Statement
import SqlBuilder.Proofs.Rendering.Modes

/-!
# Which statements render

Rendering asks the statement's tree for its root, and that of each subquery where it
stands in a tree that has one. These are the *visits*, listed here for all trees that
rendering may reach, whether it gets that far or not. The first visit that finds no
root is what rendering fails with, and if there is none, rendering succeeds
(`first_failing_tree_told`).

What builders assemble always has a root, except for an update without assignments.
So a statement of builders renders unless it holds one somewhere
(`Statement.lacksAssignment`).
-/

namespace SqlBuilder

/-! ## Visits -/

/-- What a visit finds: the root of a tree, or why it has none. -/
abbrev TreeVisit := Except BuilderError (Node Assembled)

mutual

/-- The visit of an assembled statement, and those of its subqueries if it has a root. -/
def Assembled.visits : Assembled → List TreeVisit
  | .complete _ root => .ok root :: root.visits
  | .failed _ e => [.error e]

/-- First the leaves are visited, then the token, then the children. -/
def Node.visits : Node Assembled → List TreeVisit
  | ⟨⟨token, _, _, _⟩, leaves, children, _⟩ =>
      Token.visitsAll leaves ++ Token.visitsOption token ++ Node.visitsAll children

def Node.visitsAll : List (Node Assembled) → List TreeVisit
  | [] => []
  | node :: rest => node.visits ++ Node.visitsAll rest

def Token.visitsOption : Option (Token Assembled) → List TreeVisit
  | none => []
  | some token => token.visits

def Token.visits : Token Assembled → List TreeVisit
  | .keyword _ => []
  | .operator _ => []
  | .expression e => e.visits

def Token.visitsAll : List (Token Assembled) → List TreeVisit
  | [] => []
  | token :: rest => token.visits ++ Token.visitsAll rest

def Expression.visits : Expression Assembled → List TreeVisit
  | .text _ _ _ => []
  | .value _ _ => []
  | .list elements _ => Expression.visitsAll elements
  | .array elements _ => Expression.visitsAll elements
  | .call _ arguments _ => Expression.visitsAll arguments
  | .nested statement _ => statement.visits

def Expression.visitsAll : List (Expression Assembled) → List TreeVisit
  | [] => []
  | e :: rest => e.visits ++ Expression.visitsAll rest

end

/-- The tree's own root comes before those of its subqueries. -/
def Tree.visits (tree : Tree Assembled) : List TreeVisit :=
  tree.root :: match tree.root with
    | .ok root => root.visits
    | .error _ => []

theorem Assembled.visits_ofScript (s : Script Assembled) :
    (Assembled.ofScript s).visits = (Tree.run {} s).visits := by
  unfold Assembled.ofScript Tree.visits
  cases (Tree.run {} s).root <;> rfl

/-! ## The first visit without a root -/

namespace TreeVisit

/-- Why a visit finds no root. -/
def error? : TreeVisit → Option BuilderError
  | .ok _ => none
  | .error e => some e

theorem error?_eq_none {visit : TreeVisit} : visit.error? = none ↔ ∃ root, visit = .ok root := by
  cases visit <;> simp [error?]

theorem error?_eq_some {visit : TreeVisit} {e : BuilderError} :
    visit.error? = some e ↔ visit = .error e := by
  cases visit <;> simp [error?]

theorem findSome?_error?_eq_none {visits : List TreeVisit} :
    visits.findSome? error? = none ↔ ∀ visit ∈ visits, ∃ root, visit = .ok root := by
  simp only [List.findSome?_eq_none_iff, error?_eq_none]

theorem findSome?_error?_eq_some {visits : List TreeVisit} {e : BuilderError} :
    visits.findSome? error? = some e ↔
      ∃ before behind, visits = before ++ .error e :: behind
        ∧ ∀ visit ∈ before, ∃ root, visit = .ok root := by
  rw [List.findSome?_eq_some_iff]
  simp only [error?_eq_none, error?_eq_some]
  constructor
  · rintro ⟨before, _, behind, hvisits, rfl, hbefore⟩
    exact ⟨before, behind, hvisits, hbefore⟩
  · rintro ⟨before, behind, hvisits, hbefore⟩
    exact ⟨before, _, behind, hvisits, rfl, hbefore⟩

end TreeVisit

theorem Encounter.failure?_ofValue (v : Value) : failure? (ofValue v) = none := by
  unfold ofValue
  split <;> rfl

/-! The walk of a rendering fails with what the visits find first. One case for each
constructor: walk and visits are put together in the same order. -/

mutual

theorem Assembled.failure?_encounters : ∀ a : Assembled,
    Encounter.failure? a.encounters = a.visits.findSome? TreeVisit.error?
  | .complete _ root => root.failure?_encounters
  | .failed _ _ => rfl

theorem Node.failure?_encounters : ∀ n : Node Assembled,
    Encounter.failure? n.encounters = n.visits.findSome? TreeVisit.error?
  | ⟨⟨token, _, _, _⟩, leaves, children, _⟩ => by
      rw [Node.encounters, Node.visits, Encounter.failure?_append, Encounter.failure?_append,
        List.findSome?_append, List.findSome?_append, Token.failure?_encountersAll leaves,
        Token.failure?_encountersOption token, Node.failure?_encountersAll children]

theorem Node.failure?_encountersAll : ∀ nodes : List (Node Assembled),
    Encounter.failure? (Node.encountersAll nodes)
      = (Node.visitsAll nodes).findSome? TreeVisit.error?
  | [] => rfl
  | n :: rest => by
      rw [Node.encountersAll, Node.visitsAll, Encounter.failure?_append, List.findSome?_append,
        n.failure?_encounters, Node.failure?_encountersAll rest]

theorem Token.failure?_encountersOption : ∀ token : Option (Token Assembled),
    Encounter.failure? (Token.encountersOption token)
      = (Token.visitsOption token).findSome? TreeVisit.error?
  | none => rfl
  | some token => token.failure?_encounters

theorem Token.failure?_encounters : ∀ token : Token Assembled,
    Encounter.failure? token.encounters = token.visits.findSome? TreeVisit.error?
  | .keyword _ => rfl
  | .operator _ => rfl
  | .expression e => e.failure?_encounters

theorem Token.failure?_encountersAll : ∀ tokens : List (Token Assembled),
    Encounter.failure? (Token.encountersAll tokens)
      = (Token.visitsAll tokens).findSome? TreeVisit.error?
  | [] => rfl
  | token :: rest => by
      rw [Token.encountersAll, Token.visitsAll, Encounter.failure?_append,
        List.findSome?_append, token.failure?_encounters, Token.failure?_encountersAll rest]

theorem Expression.failure?_encounters : ∀ e : Expression Assembled,
    Encounter.failure? e.encounters = e.visits.findSome? TreeVisit.error?
  | .text _ _ _ => rfl
  | .value v _ => Encounter.failure?_ofValue v
  | .list elements _ => Expression.failure?_encountersAll elements
  | .array elements _ => Expression.failure?_encountersAll elements
  | .call _ arguments _ => Expression.failure?_encountersAll arguments
  | .nested statement _ => statement.failure?_encounters

theorem Expression.failure?_encountersAll : ∀ es : List (Expression Assembled),
    Encounter.failure? (Expression.encountersAll es)
      = (Expression.visitsAll es).findSome? TreeVisit.error?
  | [] => rfl
  | e :: rest => by
      rw [Expression.encountersAll, Expression.visitsAll, Encounter.failure?_append,
        List.findSome?_append, e.failure?_encounters, Expression.failure?_encountersAll rest]

end

/-- Rendering a tree fails with the first error that its visits find. -/
theorem Tree.failure?_encounters (tree : Tree Assembled) :
    Encounter.failure? tree.encounters = tree.visits.findSome? TreeVisit.error? := by
  unfold Tree.encounters Tree.visits
  cases tree.root with
  | ok root => exact root.failure?_encounters
  | error e => rfl

/-! ## Ways to render a statement -/

/-- By a formatter that may have rendered other things, or by itself in one of the modes. -/
inductive Rendering where
  | continued (f : Formatter)
  | literal (config : RenderConfig)
  | prepared (config : RenderConfig)

namespace Rendering

variable {α : Type} [Assemble α Assembled]

/-- Whether the statement is rendered, or the error. -/
def outcome (statement : α) : Rendering → Except BuilderError Unit
  | .continued f => (f.renderStatement statement).1.map fun _ => ()
  | .literal config => (render statement config).value.map fun _ => ()
  | .prepared config => (renderPrepared statement config).value.map fun _ => ()

/-- However it is rendered, it comes to the walk of its tree. -/
theorem outcome_eq (statement : α) : ∀ r : Rendering,
    r.outcome statement = Encounter.outcome (Tree.of statement).encounters ()
  | .continued f => by
      obtain ⟨hresult, -⟩ := f.renderStatement_assembled statement
      rw [outcome, hresult, Encounter.map_outcome, Assembled.encounters_ofScript]
      rfl
  | .literal config => by
      have hvalue := (Tree.of statement).render_outcome config
      exact (congrArg (Except.map fun _ => ()) hvalue).trans (Encounter.map_outcome ..)
  | .prepared config => by
      have hvalue := (Tree.of statement).renderPrepared_outcome config
      exact (congrArg (Except.map fun _ => ()) hvalue).trans (Encounter.map_outcome ..)

end Rendering

/-! ## Updates without assignments -/

/-- Whether an item is a subquery with a property. -/
def Item.anyNested {σ : Type} (p : σ → Bool) : Item σ → Bool
  | .value _ => false
  | .nested statement => p statement

/-- Whether an update without assignments stands anywhere: as the statement, as the body
of a WITH, or in a subquery at any depth. -/
def Statement.lacksAssignment : Statement → Bool
  | ⟨_, builder, nested⟩ =>
      builder.lacksAssignment
        || builder.items.any (Item.anyNested fun i => (nested i).lacksAssignment)

theorem Builder.lacksAssignment_map {σ τ : Type} (f : σ → τ) : ∀ b : Builder σ,
    (b.map f).lacksAssignment = b.lacksAssignment
  | .update _ => List.isEmpty_map
  | .with_ _ _ (some body) => body.lacksAssignment_map f
  | .select _ | .insert _ | .delete _ | .with_ _ _ none | .commonTable _ | .join _
  | .orderElement _ | .conditions _ => rfl

/-- If all parts fail with one error, the whole does if any part does. -/
theorem Encounter.failure?_flatMap_of_single {α : Type} {walk : α → List Encounter}
    {p : α → Bool} {e : BuilderError} {as : List α}
    (h : ∀ a ∈ as, failure? (walk a) = if p a then some e else none) :
    failure? (as.flatMap walk) = if as.any p then some e else none := by
  induction as with
  | nil => rfl
  | cons a rest ih =>
      obtain ⟨ha, hrest⟩ := List.forall_mem_cons.mp h
      rw [List.flatMap_cons, failure?_append, ha, ih hrest, List.any_cons]
      cases p a <;> rfl

namespace Statement

/-- What is met first, if anything, is the rejection of an update. The induction is over
the subqueries, which all fail with the same error. -/
theorem failure?_encounters : ∀ s : Statement,
    Encounter.failure? s.assembled.encounters
      = if s.lacksAssignment then some (.invalidStatement Update.noAssignment) else none
  | ⟨_, builder, nested⟩ => by
      rw [assembled, Builder.encounters_ofScript, Builder.rejection_eq,
        Builder.lacksAssignment_map, lacksAssignment]
      cases builder.lacksAssignment with
      | true => rfl
      | false =>
          rw [if_neg Bool.false_ne_true, Option.elim_none, Builder.items_map, List.flatMap_map,
            Bool.false_or]
          refine Encounter.failure?_flatMap_of_single fun item _ => ?_
          cases item with
          | value v => exact Encounter.failure?_ofValue v
          | nested i => exact (nested i).failure?_encounters

end Statement

/-- In every mode and with every configuration, a statement is rendered if each of the
trees that are visited has a root; otherwise the error is that of the first one without
a root. This holds for whatever assembles itself, by builders or by any other script,
and a subquery is visited as the tree that it assembles to by itself. A statement of
builders fails only if it holds an update without assignments, and then always with
the rejection of that update. -/
theorem first_failing_tree_told :
    (∀ (α : Type) [Assemble α Assembled] (a : α) (r : Rendering),
      (r.outcome a = .ok () ↔ ∀ visit ∈ (Tree.of a).visits, ∃ root, visit = .ok root)
      ∧ ∀ e, r.outcome a = .error e ↔
          ∃ before behind, (Tree.of a).visits = before ++ .error e :: behind
            ∧ ∀ visit ∈ before, ∃ root, visit = .ok root)
    ∧ (∀ (α : Type) [Assemble α Assembled] (a : α),
        (Expression.subquery a).visits = (Tree.of a).visits)
    ∧ ∀ (s : Statement) (r : Rendering),
        r.outcome s
          = if s.lacksAssignment then .error (.invalidStatement Update.noAssignment)
            else .ok () := by
  refine ⟨fun α _ a r => ?_, fun α _ a => Assembled.visits_ofScript _, fun s r => ?_⟩
  · rw [r.outcome_eq, Encounter.outcome, Tree.failure?_encounters]
    refine ⟨?_, fun e => ?_⟩
    · rw [← TreeVisit.findSome?_error?_eq_none]
      cases (Tree.of a).visits.findSome? TreeVisit.error? <;> simp
    · rw [← TreeVisit.findSome?_error?_eq_some]
      cases (Tree.of a).visits.findSome? TreeVisit.error? <;> simp
  · have hwalk : (Tree.of s).encounters = s.assembled.encounters := by
      rw [s.assembled_eq, Assembled.encounters_ofScript]
      rfl
    rw [r.outcome_eq, Encounter.outcome, hwalk, s.failure?_encounters]
    cases s.lacksAssignment <;> rfl

/-- A broken subquery is told before a rejected one behind it. -/
example :
    let broken : Script Assembled := [.endNode]
    let rejected : Update Assembled := { table := .column "users" }
    let list : Expression Assembled := .list [.subquery broken, .subquery rejected]
    (Rendering.prepared {}).outcome ({ outputs := [list] } : Select Assembled)
      = .error (.brokenTree (.misused .endWithoutOpenNode)) := by
  rfl

end SqlBuilder
