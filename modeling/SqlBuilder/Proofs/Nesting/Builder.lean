import SqlBuilder.Proofs.Assembly.Nodes

/-!
# Builders over subqueries of any type

`Builder` gathers everything that is made by builder calls and assembles
itself; the body of a WITH statement is again a builder. Subqueries are of any
type, and `Builder.map` replaces them.
-/

namespace SqlBuilder

variable {σ τ : Type}

/-- A builder of any sort. -/
inductive Builder (σ : Type) where
  | select (s : Select σ)
  | insert (i : Insert σ)
  | update (u : Update σ)
  | delete (d : Delete σ)
  | with_ (isRecursive : Bool) (expressions : List (CommonTableExpression σ))
      (body : Option (Builder σ))
  | commonTable (c : CommonTableExpression σ)
  | join (j : Join σ)
  | orderElement (o : OrderElement σ)
  | conditions (c : Conditions σ)

/-! ## Assembly -/

namespace Builder

open Script (Builds Forms)

def script : Builder σ → Script σ
  | .select s => s.script
  | .insert i => i.script
  | .update u => u.script
  | .delete d => d.script
  | .with_ isRecursive expressions none => With.script { isRecursive, expressions }
  | .with_ isRecursive expressions (some body) =>
      With.script { isRecursive, expressions, content := some body.script }
  | .commonTable c => c.script
  | .join j => j.script
  | .orderElement o => o.script
  | .conditions c => c.script

def node : Builder σ → Node σ
  | .select s => s.node
  | .insert i => i.node
  | .update u => u.node
  | .delete d => d.node
  | .with_ isRecursive expressions none =>
      ⟨.empty, [], With.expressionNodes { isRecursive, expressions } ++ [], defaultDelimiter⟩
  | .with_ isRecursive expressions (some body) =>
      ⟨.empty, [], With.expressionNodes { isRecursive, expressions } ++ [body.node],
        defaultDelimiter⟩
  | .commonTable c => c.node
  | .join j => j.node
  | .orderElement o => o.node
  | .conditions c => c.node

/-- Why a builder is rejected when it is assembled: an update without
assignments, by itself or as a body. -/
def rejection : Builder σ → Option String
  | .update u => u.rejection
  | .with_ _ _ (some body) => body.rejection
  | _ => none

/-- Whether an update without assignments is assembled in place: the builder itself, or
the body of a WITH statement. -/
def lacksAssignment : Builder σ → Bool
  | .update u => u.assignments.isEmpty
  | .with_ _ _ (some body) => body.lacksAssignment
  | _ => false

theorem rejection_eq : ∀ b : Builder σ,
    b.rejection = if b.lacksAssignment then some Update.noAssignment else none
  | .update _ => rfl
  | .with_ _ _ (some body) => body.rejection_eq
  | .select _ | .insert _ | .delete _ | .with_ _ _ none | .commonTable _ | .join _
  | .orderElement _ | .conditions _ => rfl

/-- A builder forms its node; a body is built in place, and its rejection is that of the whole. -/
theorem forms : ∀ b : Builder σ, Forms b.script b.node b.rejection
  | .select s => s.forms
  | .insert i => i.forms
  | .update u => u.forms
  | .delete d => d.forms
  | .with_ _ _ none => With.forms Builds.nil
  | .with_ _ _ (some body) => With.forms body.forms.builds
  | .commonTable c => c.forms
  | .join j => j.forms
  | .orderElement o => o.forms
  | .conditions c => c.forms

end Builder

instance : Assemble (Builder σ) σ := ⟨Builder.script⟩

/-! ## Other subqueries

The same builder with other subqueries in the places of its own. -/

mutual

/-- The expression with other subqueries. -/
def Expression.map (f : σ → τ) : Expression σ → Expression τ
  | .text content style suffix => .text content style suffix
  | .value v suffix => .value v suffix
  | .list elements suffix => .list (Expression.mapAll f elements) suffix
  | .array elements suffix => .array (Expression.mapAll f elements) suffix
  | .call name arguments suffix => .call name (Expression.mapAll f arguments) suffix
  | .nested statement suffix => .nested (f statement) suffix

def Expression.mapAll (f : σ → τ) : List (Expression σ) → List (Expression τ)
  | [] => []
  | e :: rest => e.map f :: Expression.mapAll f rest

end

mutual

def Conditions.map (f : σ → τ) : Conditions σ → Conditions τ
  | ⟨predicate, attached⟩ => ⟨predicate.map f, Attached.mapAll f attached⟩

def Predicate.map (f : σ → τ) : Predicate σ → Predicate τ
  | .compare left operator right => .compare (left.map f) operator (right.map f)
  | .trailing operand operator => .trailing (operand.map f) operator
  | .between left low high negated => .between (left.map f) (low.map f) (high.map f) negated
  | .existence operand negated => .existence (operand.map f) negated
  | .membership left right negated => .membership (left.map f) (right.map f) negated
  | .quantified left operator quantifier right =>
      .quantified (left.map f) operator quantifier (right.map f)
  | .group conditions => .group (conditions.map f)

def Attached.mapAll (f : σ → τ) : List (Attached σ) → List (Attached τ)
  | [] => []
  | ⟨connector, conditions⟩ :: rest => ⟨connector, conditions.map f⟩ :: Attached.mapAll f rest

end

def Join.map (f : σ → τ) (j : Join σ) : Join τ :=
  ⟨j.kind, j.table.map f, j.condition.map (·.map f)⟩

def OrderElement.map (f : σ → τ) (o : OrderElement σ) : OrderElement τ :=
  ⟨o.key.map f, o.direction, o.nulls⟩

mutual

def Select.map (f : σ → τ) : Select σ → Select τ
  | ⟨isDistinct, outputs, sources, joins, restriction, grouping, groupRestriction, unions,
      ordering, rowLimit, rowOffset⟩ =>
      { isDistinct
        outputs := outputs.map (·.map f)
        sources := sources.map (·.map f)
        joins := joins.map (·.map f)
        restriction := restriction.map (·.map f)
        grouping := grouping.map (·.map f)
        groupRestriction := groupRestriction.map (·.map f)
        unions := UnionMember.mapAll f unions
        ordering := ordering.map (·.map f)
        rowLimit := rowLimit.map (·.map f)
        rowOffset := rowOffset.map (·.map f) }

def UnionMember.mapAll (f : σ → τ) : List (UnionMember σ) → List (UnionMember τ)
  | [] => []
  | ⟨keepsDuplicates, select⟩ :: rest =>
      ⟨keepsDuplicates, select.map f⟩ :: UnionMember.mapAll f rest

end

def InsertSource.map (f : σ → τ) : InsertSource σ → InsertSource τ
  | .rows given => .rows (given.map (·.map (·.map f)))
  | .select s => .select (s.map f)

def Insert.map (f : σ → τ) (i : Insert σ) : Insert τ :=
  { table := i.table.map f
    targets := i.targets.map (·.map f)
    source := i.source.map f
    skipsConflicts := i.skipsConflicts
    results := i.results.map (·.map f) }

def Assignment.map (f : σ → τ) (a : Assignment σ) : Assignment τ :=
  ⟨a.column.map f, a.value.map f⟩

def Update.map (f : σ → τ) (u : Update σ) : Update τ :=
  { table := u.table.map f
    assignments := u.assignments.map (·.map f)
    sources := u.sources.map (·.map f)
    restriction := u.restriction.map (·.map f)
    results := u.results.map (·.map f) }

def Delete.map (f : σ → τ) (d : Delete σ) : Delete τ :=
  { table := d.table.map f
    sources := d.sources.map (·.map f)
    restriction := d.restriction.map (·.map f)
    results := d.results.map (·.map f) }

def CommonTableExpression.map (f : σ → τ) (c : CommonTableExpression σ) :
    CommonTableExpression τ :=
  ⟨c.name, c.columns, f c.statement⟩

def Builder.map (f : σ → τ) : Builder σ → Builder τ
  | .select s => .select (s.map f)
  | .insert i => .insert (i.map f)
  | .update u => .update (u.map f)
  | .delete d => .delete (d.map f)
  | .with_ isRecursive expressions none =>
      .with_ isRecursive (expressions.map (·.map f)) none
  | .with_ isRecursive expressions (some body) =>
      .with_ isRecursive (expressions.map (·.map f)) (some (body.map f))
  | .commonTable c => .commonTable (c.map f)
  | .join j => .join (j.map f)
  | .orderElement o => .orderElement (o.map f)
  | .conditions c => .conditions (c.map f)

end SqlBuilder
