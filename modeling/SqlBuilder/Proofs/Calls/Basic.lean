import SqlBuilder.Statement.Delete
import SqlBuilder.Statement.Insert
import SqlBuilder.Statement.Update
import SqlBuilder.Statement.With

/-!
# Sequences of builder calls

A statement is made by calls, one after the other. Of all the calls, those that
filter decide the restriction, whatever stands between them
(`Select.restriction_foldl` and its companions).
-/

namespace SqlBuilder

variable {σ : Type}

/-- Takes in conditions one after the other. -/
def conjoinAll (existing : Option (Conditions σ)) (given : List (Conditions σ)) :
    Option (Conditions σ) :=
  given.foldl (fun existing c => some (conjoin existing c)) existing

/-- If every call takes in the conditions it is given, so do calls one after the
other. -/
theorem conjoinAll_foldl {α β : Type} {perform : α → β → α} {held : α → Option (Conditions σ)}
    {given : β → Option (Conditions σ)}
    (step : ∀ a call, held (perform a call) = conjoinAll (held a) (given call).toList)
    (calls : List β) (a : α) :
    held (calls.foldl perform a) = conjoinAll (held a) (calls.filterMap given) := by
  induction calls generalizing a with
  | nil => rfl
  | cons call rest ih =>
      rw [List.foldl_cons, ih, step]
      cases h : given call with
      | none => rw [List.filterMap_cons_none h]; rfl
      | some c => rw [List.filterMap_cons_some h]; rfl

/-! ## SELECT -/

namespace Select

/-- The calls that make up a SELECT. -/
inductive Call (σ : Type) where
  | distinct
  | column (e : Expression σ)
  | columns (es : List (Expression σ))
  | fromTable (table : Expression σ)
  | join (j : Join σ)
  | innerJoin (table : Expression σ) (condition : Conditions σ)
  | leftJoin (table : Expression σ) (condition : Conditions σ)
  | rightJoin (table : Expression σ) (condition : Conditions σ)
  | fullJoin (table : Expression σ) (condition : Conditions σ)
  | crossJoin (table : Expression σ)
  | filter (c : Conditions σ)
  | groupBy (es : List (Expression σ))
  | having (c : Conditions σ)
  | union (other : Select σ)
  | unionAll (other : Select σ)
  | orderBy (o : OrderElement σ)
  | limit (e : Expression σ)
  | offset (e : Expression σ)

def perform (s : Select σ) : Call σ → Select σ
  | .distinct => s.distinct
  | .column e => s.column e
  | .columns es => s.columns es
  | .fromTable table => s.fromTable table
  | .join j => s.join j
  | .innerJoin table condition => s.innerJoin table condition
  | .leftJoin table condition => s.leftJoin table condition
  | .rightJoin table condition => s.rightJoin table condition
  | .fullJoin table condition => s.fullJoin table condition
  | .crossJoin table => s.crossJoin table
  | .filter c => s.filter c
  | .groupBy es => s.groupBy es
  | .having c => s.having c
  | .union other => s.union other
  | .unionAll other => s.unionAll other
  | .orderBy o => s.orderBy o
  | .limit e => s.limit e
  | .offset e => s.offset e

def build (calls : List (Call σ)) : Select σ := calls.foldl perform {}

/-- The conditions that a call adds to those on rows. -/
def Call.filtered : Call σ → Option (Conditions σ)
  | .filter c => some c
  | _ => none

def Call.groupFiltered : Call σ → Option (Conditions σ)
  | .having c => some c
  | _ => none

/-- Only a call to filter touches the restriction. -/
theorem restriction_perform (s : Select σ) (call : Call σ) :
    (s.perform call).restriction = conjoinAll s.restriction call.filtered.toList := by
  cases call <;> rfl

theorem restriction_foldl (calls : List (Call σ)) (s : Select σ) :
    (calls.foldl perform s).restriction
      = conjoinAll s.restriction (calls.filterMap Call.filtered) :=
  conjoinAll_foldl restriction_perform calls s

theorem groupRestriction_perform (s : Select σ) (call : Call σ) :
    (s.perform call).groupRestriction
      = conjoinAll s.groupRestriction call.groupFiltered.toList := by
  cases call <;> rfl

theorem groupRestriction_foldl (calls : List (Call σ)) (s : Select σ) :
    (calls.foldl perform s).groupRestriction
      = conjoinAll s.groupRestriction (calls.filterMap Call.groupFiltered) :=
  conjoinAll_foldl groupRestriction_perform calls s

end Select

/-! ## INSERT -/

namespace Insert

inductive Call (σ : Type) where
  | columns (es : List (Expression σ))
  | values (row : List (Expression σ))
  | select (s : Select σ)
  | onConflictDoNothing
  | returning (es : List (Expression σ))

def perform (i : Insert σ) : Call σ → Insert σ
  | .columns es => i.columns es
  | .values row => i.values row
  | .select s => i.select s
  | .onConflictDoNothing => i.onConflictDoNothing
  | .returning es => i.returning es

def build (table : Expression σ) (calls : List (Call σ)) : Insert σ :=
  calls.foldl perform (intoTable table)

end Insert

/-! ## UPDATE -/

namespace Update

inductive Call (σ : Type) where
  | set (column value : Expression σ)
  | fromTable (table : Expression σ)
  | filter (c : Conditions σ)
  | returning (es : List (Expression σ))

def perform (u : Update σ) : Call σ → Update σ
  | .set column value => u.set column value
  | .fromTable table => u.fromTable table
  | .filter c => u.filter c
  | .returning es => u.returning es

def build (table : Expression σ) (calls : List (Call σ)) : Update σ :=
  calls.foldl perform (ofTable table)

def Call.filtered : Call σ → Option (Conditions σ)
  | .filter c => some c
  | _ => none

theorem restriction_perform (u : Update σ) (call : Call σ) :
    (u.perform call).restriction = conjoinAll u.restriction call.filtered.toList := by
  cases call <;> rfl

theorem restriction_foldl (calls : List (Call σ)) (u : Update σ) :
    (calls.foldl perform u).restriction
      = conjoinAll u.restriction (calls.filterMap Call.filtered) :=
  conjoinAll_foldl restriction_perform calls u

end Update

/-! ## DELETE -/

namespace Delete

inductive Call (σ : Type) where
  | usingTable (table : Expression σ)
  | filter (c : Conditions σ)
  | returning (es : List (Expression σ))

def perform (d : Delete σ) : Call σ → Delete σ
  | .usingTable table => d.usingTable table
  | .filter c => d.filter c
  | .returning es => d.returning es

def build (table : Expression σ) (calls : List (Call σ)) : Delete σ :=
  calls.foldl perform (fromTable table)

def Call.filtered : Call σ → Option (Conditions σ)
  | .filter c => some c
  | _ => none

theorem restriction_perform (d : Delete σ) (call : Call σ) :
    (d.perform call).restriction = conjoinAll d.restriction call.filtered.toList := by
  cases call <;> rfl

theorem restriction_foldl (calls : List (Call σ)) (d : Delete σ) :
    (calls.foldl perform d).restriction
      = conjoinAll d.restriction (calls.filterMap Call.filtered) :=
  conjoinAll_foldl restriction_perform calls d

end Delete

/-! ## WITH -/

namespace With

/-- A body is given by its steps. -/
inductive Call (σ : Type) where
  | recursively
  | expression (c : CommonTableExpression σ)
  | named (name : String) (statement : σ)
  | body (content : Script σ)

def perform (w : With σ) : Call σ → With σ
  | .recursively => w.recursively
  | .expression c => w.expression c
  | .named name statement => w.named name statement
  | .body content => w.body content

def build (calls : List (Call σ)) : With σ := calls.foldl perform {}

end With

end SqlBuilder
