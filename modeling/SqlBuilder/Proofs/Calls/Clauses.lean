import Mathlib.Data.List.DropRight
import SqlBuilder.Formatter
import SqlBuilder.Proofs.Calls.Basic

/-!
# Calls clause by clause

Every builder call goes to one clause of the statement, and calls to different
clauses commute (`Select.commuting` and its companions). So a call can be made in
front of calls to other clauses, and two sequences of calls that are the same clause
by clause make the same statement (`Commuting.foldl_eq`).

Some clauses hold one thing: the last call wins (`foldl_eq_getLast?`). The rows to
insert are those behind the last selection; without any, it is that selection
(`Insert.source_build`).
-/

namespace SqlBuilder

/-! ## Calls that commute -/

section Commuting

variable {α β κ : Type} {perform : α → β → α} {clause : β → κ}

/-- Calls to different clauses can be made in either order. -/
def Commuting (perform : α → β → α) (clause : β → κ) : Prop :=
  ∀ a call call', clause call ≠ clause call' →
    perform (perform a call) call' = perform (perform a call') call

/-- A call can be made in front of calls to other clauses. -/
theorem Commuting.foldl_past (h : Commuting perform clause) {front : List β} {call : β}
    (hfront : ∀ other ∈ front, clause other ≠ clause call) (back : List β) (a : α) :
    (front ++ call :: back).foldl perform a = (front ++ back).foldl perform (perform a call) := by
  induction front generalizing a with
  | nil => rfl
  | cons other rest ih =>
      obtain ⟨hother, hrest⟩ := List.forall_mem_cons.mp hfront
      rw [List.cons_append, List.foldl_cons, ih hrest, h a other call hother]
      rfl

variable [DecidableEq κ]

/-- Clause by clause, the same calls in the same order. -/
def SameByClause (clause : β → κ) (calls calls' : List β) : Prop :=
  ∀ k, calls.filter (clause · = k) = calls'.filter (clause · = k)

/-- The first call of the one sequence is in the other one behind calls to other
clauses only. -/
theorem SameByClause.exists_first {call : β} {rest calls : List β}
    (h : SameByClause clause (call :: rest) calls) :
    ∃ front back, calls = front ++ call :: back
      ∧ (∀ other ∈ front, clause other ≠ clause call)
      ∧ SameByClause clause rest (front ++ back) := by
  have hown := h (clause call)
  rw [List.filter_cons_of_pos (by simp)] at hown
  obtain ⟨front, back, rfl, hfront, -, hback⟩ := List.filter_eq_cons_iff.mp hown.symm
  simp only [decide_eq_true_eq] at hfront
  refine ⟨front, back, rfl, hfront, fun k => ?_⟩
  by_cases hk : clause call = k
  · subst hk
    have hnone : front.filter (clause · = clause call) = [] := by simpa using hfront
    rw [List.filter_append, hnone, List.nil_append, hback]
  · have hrest := h k
    rw [List.filter_append, List.filter_cons_of_neg (by simpa using hk),
      List.filter_cons_of_neg (by simpa using hk)] at hrest
    rw [hrest, List.filter_append]

/-- Clause by clause the same calls make the same statement. The induction is over the
one sequence; in the other one its first call comes to the front. -/
theorem Commuting.foldl_eq (h : Commuting perform clause) {calls calls' : List β}
    (hsame : SameByClause clause calls calls') (a : α) :
    calls.foldl perform a = calls'.foldl perform a := by
  induction calls generalizing calls' a with
  | nil =>
      cases calls' with
      | nil => rfl
      | cons call rest => simpa using hsame (clause call)
  | cons call rest ih =>
      obtain ⟨front, back, rfl, hfront, hrest⟩ := hsame.exists_first
      rw [h.foldl_past hfront]
      exact ih hrest (perform a call)

end Commuting

/-- If every call that gives something replaces what is held, the last one wins. -/
theorem foldl_eq_getLast? {α β γ : Type} {perform : α → β → α} {held : α → Option γ}
    {given : β → Option γ} (step : ∀ a call, held (perform a call) = (given call).or (held a))
    (calls : List β) (a : α) :
    held (calls.foldl perform a) = (calls.filterMap given).getLast?.or (held a) := by
  induction calls using List.reverseRecOn with
  | nil => rfl
  | append_singleton calls call ih =>
      rw [List.foldl_append, List.foldl_cons, List.foldl_nil, step, ih, List.filterMap_append]
      cases h : given call with
      | none => simp [h]
      | some c => simp [h]

/-! ## SELECT -/

namespace Select

inductive ClauseKind where
  | distinct
  | outputs
  | sources
  | joins
  | restriction
  | grouping
  | groupRestriction
  | unions
  | ordering
  | limit
  | offset
deriving DecidableEq

variable {σ : Type}

def Call.clause : Call σ → ClauseKind
  | .distinct => .distinct
  | .column _ | .columns _ => .outputs
  | .fromTable _ => .sources
  | .join _ | .innerJoin _ _ | .leftJoin _ _ | .rightJoin _ _ | .fullJoin _ _
  | .crossJoin _ => .joins
  | .filter _ => .restriction
  | .groupBy _ => .grouping
  | .having _ => .groupRestriction
  | .union _ | .unionAll _ => .unions
  | .orderBy _ => .ordering
  | .limit _ => .limit
  | .offset _ => .offset

/-- Calls to different clauses change different fields. -/
theorem commuting : Commuting (@perform σ) Call.clause := by
  intro s call call' h
  cases call <;> cases call' <;> first | rfl | exact absurd rfl h

def Call.limited : Call σ → Option (Expression σ)
  | .limit e => some e
  | _ => none

def Call.skipped : Call σ → Option (Expression σ)
  | .offset e => some e
  | _ => none

theorem rowLimit_perform (s : Select σ) (call : Call σ) :
    (s.perform call).rowLimit = call.limited.or s.rowLimit := by
  cases call <;> rfl

theorem rowOffset_perform (s : Select σ) (call : Call σ) :
    (s.perform call).rowOffset = call.skipped.or s.rowOffset := by
  cases call <;> rfl

end Select

/-! ## INSERT -/

namespace Insert

inductive ClauseKind where
  | targets
  | source
  | conflicts
  | results
deriving DecidableEq

variable {σ : Type}

def Call.clause : Call σ → ClauseKind
  | .columns _ => .targets
  | .values _ | .select _ => .source
  | .onConflictDoNothing => .conflicts
  | .returning _ => .results

theorem commuting : Commuting (@perform σ) Call.clause := by
  rintro ⟨table, targets, source, skipsConflicts, results⟩ call call' h
  -- what a row does depends on the source that is there
  cases source <;> cases call <;> cases call' <;> first | rfl | exact absurd rfl h

def Call.row : Call σ → Option (List (Expression σ))
  | .values row => some row
  | _ => none

def Call.selection : Call σ → Option (Select σ)
  | .select s => some s
  | _ => none

/-- The last selection. -/
def selectionGiven (calls : List (Call σ)) : Option (Select σ) :=
  (calls.filterMap Call.selection).getLast?

/-- The rows behind the last selection. -/
def rowsGiven (calls : List (Call σ)) : List (List (Expression σ)) :=
  (calls.rtakeWhile fun call => call.selection.isNone).filterMap Call.row

/-- The rows behind the last selection, or that selection if there are none. -/
def sourceGiven (calls : List (Call σ)) : InsertSource σ :=
  match rowsGiven calls, selectionGiven calls with
  | [], some s => .select s
  | rows, _ => .rows rows

theorem rowsGiven_concat (calls : List (Call σ)) {call : Call σ} (h : call.selection = none) :
    rowsGiven (calls ++ [call]) = rowsGiven calls ++ call.row.toList := by
  rw [rowsGiven, List.rtakeWhile_concat_pos _ _ _ (by rw [h]; rfl), List.filterMap_append]
  cases hrow : call.row <;> simp [rowsGiven, hrow]

theorem selectionGiven_concat (calls : List (Call σ)) {call : Call σ}
    (h : call.selection = none) :
    selectionGiven (calls ++ [call]) = selectionGiven calls := by
  simp [selectionGiven, h]

theorem sourceGiven_select (calls : List (Call σ)) (s : Select σ) :
    sourceGiven (calls ++ [.select s]) = .select s := by
  have hrows : rowsGiven (calls ++ [.select s]) = [] := by
    rw [rowsGiven, List.rtakeWhile_concat_neg _ _ _ (by simp [Call.selection])]
    rfl
  have hselection : selectionGiven (calls ++ [.select s]) = some s := by
    simp [selectionGiven, Call.selection]
  rw [sourceGiven, hrows, hselection]

theorem sourceGiven_values (calls : List (Call σ)) (row : List (Expression σ)) :
    sourceGiven (calls ++ [.values row]) = .rows (rowsGiven calls ++ [row]) := by
  have hrows : rowsGiven (calls ++ [.values row]) = rowsGiven calls ++ [row] :=
    rowsGiven_concat calls rfl
  rw [sourceGiven, hrows]
  cases rowsGiven calls <;> rfl

theorem sourceGiven_other (calls : List (Call σ)) {call : Call σ} (hrow : call.row = none)
    (hselection : call.selection = none) :
    sourceGiven (calls ++ [call]) = sourceGiven calls := by
  rw [sourceGiven, rowsGiven_concat calls hselection, hrow, Option.toList_none, List.append_nil,
    selectionGiven_concat calls hselection, sourceGiven]

/-- The rows that stay when another one is added. -/
def rowsKept : InsertSource σ → List (List (Expression σ))
  | .rows rows => rows
  | .select _ => []

theorem source_values (i : Insert σ) (row : List (Expression σ)) :
    (i.values row).source = .rows (rowsKept i.source ++ [row]) := by
  unfold Insert.values
  cases i.source <;> rfl

theorem rowsKept_sourceGiven (calls : List (Call σ)) :
    rowsKept (sourceGiven calls) = rowsGiven calls := by
  unfold sourceGiven
  cases rowsGiven calls with
  | nil => cases selectionGiven calls <;> rfl
  | cons row rest => rfl

/-- Every call does to the source what it does to the rows and the selection given. -/
theorem source_perform (i : Insert σ) {calls : List (Call σ)} (call : Call σ)
    (h : i.source = sourceGiven calls) :
    (i.perform call).source = sourceGiven (calls ++ [call]) := by
  cases call with
  | values row =>
      rw [sourceGiven_values, ← rowsKept_sourceGiven, ← h]
      exact source_values i row
  | select s => exact (sourceGiven_select calls s).symm
  | columns es | onConflictDoNothing | returning es =>
      exact h.trans (sourceGiven_other calls rfl rfl).symm

theorem source_build (table : Expression σ) (calls : List (Call σ)) :
    (build table calls).source = sourceGiven calls := by
  induction calls using List.reverseRecOn with
  | nil => rfl
  | append_singleton calls call ih =>
      rw [build, List.foldl_append]
      exact source_perform _ call ih

end Insert

/-! ## UPDATE -/

namespace Update

inductive ClauseKind where
  | assignments
  | sources
  | restriction
  | results
deriving DecidableEq

variable {σ : Type}

def Call.clause : Call σ → ClauseKind
  | .set _ _ => .assignments
  | .fromTable _ => .sources
  | .filter _ => .restriction
  | .returning _ => .results

theorem commuting : Commuting (@perform σ) Call.clause := by
  intro u call call' h
  cases call <;> cases call' <;> first | rfl | exact absurd rfl h

end Update

/-! ## DELETE -/

namespace Delete

inductive ClauseKind where
  | sources
  | restriction
  | results
deriving DecidableEq

variable {σ : Type}

def Call.clause : Call σ → ClauseKind
  | .usingTable _ => .sources
  | .filter _ => .restriction
  | .returning _ => .results

theorem commuting : Commuting (@perform σ) Call.clause := by
  intro d call call' h
  cases call <;> cases call' <;> first | rfl | exact absurd rfl h

end Delete

/-! ## WITH -/

namespace With

inductive ClauseKind where
  | recursion
  | expressions
  | content
deriving DecidableEq

variable {σ : Type}

def Call.clause : Call σ → ClauseKind
  | .recursively => .recursion
  | .expression _ | .named _ _ => .expressions
  | .body _ => .content

theorem commuting : Commuting (@perform σ) Call.clause := by
  intro w call call' h
  cases call <;> cases call' <;> first | rfl | exact absurd rfl h

def Call.bodied : Call σ → Option (Script σ)
  | .body content => some content
  | _ => none

theorem content_perform (w : With σ) (call : Call σ) :
    (w.perform call).content = call.bodied.or w.content := by
  cases call <;> rfl

end With

/-! ## Rendering -/

/-- The same literal text, and the same text and parameters if prepared, or the same
errors. -/
def RenderedAlike {α : Type} [Assemble α Assembled] (a b : α) : Prop :=
  ∀ config, (render a config).value = (render b config).value
    ∧ (renderPrepared a config).value = (renderPrepared b config).value

theorem Commuting.renderedAlike {α β κ : Type} [Assemble α Assembled] [DecidableEq κ]
    {perform : α → β → α} {clause : β → κ} (h : Commuting perform clause) (a : α)
    {calls calls' : List β} (hsame : SameByClause clause calls calls') :
    RenderedAlike (calls.foldl perform a) (calls'.foldl perform a) := by
  intro config
  rw [h.foldl_eq hsame]
  exact ⟨rfl, rfl⟩

/-- Two sequences of calls that are the same clause by clause lead from one start to
statements that are rendered alike, however the calls to different clauses are mixed.

In the clauses that hold one thing the last call wins: the limit and the offset of a
selection and the body of a WITH statement. The rows of an INSERT are those given
behind the last selection, in their order; without any, the selection stands there,
and with neither, the default values. -/
theorem only_order_within_clauses_matters :
    (∀ (s : Select Assembled) (calls calls' : List (Select.Call Assembled)),
        SameByClause Select.Call.clause calls calls' →
          RenderedAlike (calls.foldl Select.perform s) (calls'.foldl Select.perform s))
    ∧ (∀ (i : Insert Assembled) (calls calls' : List (Insert.Call Assembled)),
        SameByClause Insert.Call.clause calls calls' →
          RenderedAlike (calls.foldl Insert.perform i) (calls'.foldl Insert.perform i))
    ∧ (∀ (u : Update Assembled) (calls calls' : List (Update.Call Assembled)),
        SameByClause Update.Call.clause calls calls' →
          RenderedAlike (calls.foldl Update.perform u) (calls'.foldl Update.perform u))
    ∧ (∀ (d : Delete Assembled) (calls calls' : List (Delete.Call Assembled)),
        SameByClause Delete.Call.clause calls calls' →
          RenderedAlike (calls.foldl Delete.perform d) (calls'.foldl Delete.perform d))
    ∧ (∀ (w : With Assembled) (calls calls' : List (With.Call Assembled)),
        SameByClause With.Call.clause calls calls' →
          RenderedAlike (calls.foldl With.perform w) (calls'.foldl With.perform w))
    ∧ (∀ (s : Select Assembled) (calls : List (Select.Call Assembled)),
        let made := calls.foldl Select.perform s
        made.rowLimit = (calls.filterMap Select.Call.limited).getLast?.or s.rowLimit
          ∧ made.rowOffset = (calls.filterMap Select.Call.skipped).getLast?.or s.rowOffset)
    ∧ (∀ (w : With Assembled) (calls : List (With.Call Assembled)),
        (calls.foldl With.perform w).content
          = (calls.filterMap With.Call.bodied).getLast?.or w.content)
    ∧ ∀ table (calls : List (Insert.Call Assembled)),
        (Insert.build table calls).sourceScript
          = match Insert.rowsGiven calls, Insert.selectionGiven calls with
            | [], some s => s.script
            | [], none => Clause.bare Keyword.defaultValues
            | rows, _ => Clause.list Keyword.values (rows.map (.list ·)) := by
  refine ⟨fun s _ _ h => Select.commuting.renderedAlike s h,
    fun i _ _ h => Insert.commuting.renderedAlike i h,
    fun u _ _ h => Update.commuting.renderedAlike u h,
    fun d _ _ h => Delete.commuting.renderedAlike d h,
    fun w _ _ h => With.commuting.renderedAlike w h,
    fun s calls => ⟨?_, ?_⟩, fun w calls => ?_, fun table calls => ?_⟩
  · exact foldl_eq_getLast? Select.rowLimit_perform calls s
  · exact foldl_eq_getLast? Select.rowOffset_perform calls s
  · exact foldl_eq_getLast? With.content_perform calls w
  · rw [Insert.sourceScript, Insert.source_build, Insert.sourceGiven]
    cases Insert.rowsGiven calls with
    | nil => cases Insert.selectionGiven calls <;> rfl
    | cons row rest => rfl

/-- Calls to the clauses of each kind of statement, mixed and in the order of SQL. -/
theorem only_order_within_clauses_matters_mixed :
    let a : Conditions Assembled := .compare (.column "a") "=" (.value (.scalar (.int32 1)))
    let b : Conditions Assembled := .or (.compare (.column "b") ">" (.raw "c")) a
    let query : Select Assembled := Select.build [.fromTable (.column "u"), .filter b]
    let number : Expression Assembled := .value (.scalar (.int64 20))
    let t : Expression Assembled := .column "t"
    let selectMixed : List (Select.Call Assembled) :=
      [.limit (.raw "10"), .filter a, .union query, .fromTable t, .limit number, .filter b]
    let selectOrdered : List (Select.Call Assembled) :=
      [.fromTable t, .filter a, .filter b, .union query, .limit (.raw "10"), .limit number]
    let insertMixed : List (Insert.Call Assembled) :=
      [.values [.raw "1"], .returning [t], .select query, .columns [t], .values [number]]
    let insertOrdered : List (Insert.Call Assembled) :=
      [.columns [t], .values [.raw "1"], .select query, .values [number], .returning [t]]
    let updateMixed : List (Update.Call Assembled) :=
      [.filter a, .set t number, .filter b, .returning [t], .set (.column "a") (.raw "2")]
    let updateOrdered : List (Update.Call Assembled) :=
      [.set t number, .set (.column "a") (.raw "2"), .filter a, .filter b, .returning [t]]
    let deleteMixed : List (Delete.Call Assembled) :=
      [.returning [t], .filter a, .usingTable (.column "u"), .filter b]
    let deleteOrdered : List (Delete.Call Assembled) :=
      [.usingTable (.column "u"), .filter a, .filter b, .returning [t]]
    let withMixed : List (With.Call Assembled) :=
      [.body query.script, .named "v" (.ofScript query.script), .recursively, .body b.script]
    let withOrdered : List (With.Call Assembled) :=
      [.recursively, .named "v" (.ofScript query.script), .body query.script, .body b.script]
    (SameByClause Select.Call.clause selectMixed selectOrdered
        ∧ RenderedAlike (Select.build selectMixed) (Select.build selectOrdered))
      ∧ (SameByClause Insert.Call.clause insertMixed insertOrdered
        ∧ RenderedAlike (Insert.build t insertMixed) (Insert.build t insertOrdered))
      ∧ (SameByClause Update.Call.clause updateMixed updateOrdered
        ∧ RenderedAlike (Update.build t updateMixed) (Update.build t updateOrdered))
      ∧ (SameByClause Delete.Call.clause deleteMixed deleteOrdered
        ∧ RenderedAlike (Delete.build t deleteMixed) (Delete.build t deleteOrdered))
      ∧ (SameByClause With.Call.clause withMixed withOrdered
        ∧ RenderedAlike (With.build withMixed) (With.build withOrdered)) := by
  intro a b query number t selectMixed selectOrdered insertMixed insertOrdered updateMixed
    updateOrdered deleteMixed deleteOrdered withMixed withOrdered
  obtain ⟨hselect, hinsert, hupdate, hdelete, hwith, -⟩ := only_order_within_clauses_matters
  have hselectSame : SameByClause Select.Call.clause selectMixed selectOrdered := by
    rintro (_ | _) <;> rfl
  have hinsertSame : SameByClause Insert.Call.clause insertMixed insertOrdered := by
    rintro (_ | _) <;> rfl
  have hupdateSame : SameByClause Update.Call.clause updateMixed updateOrdered := by
    rintro (_ | _) <;> rfl
  have hdeleteSame : SameByClause Delete.Call.clause deleteMixed deleteOrdered := by
    rintro (_ | _) <;> rfl
  have hwithSame : SameByClause With.Call.clause withMixed withOrdered := by
    rintro (_ | _) <;> rfl
  exact ⟨⟨hselectSame, hselect _ _ _ hselectSame⟩, ⟨hinsertSame, hinsert _ _ _ hinsertSame⟩,
    ⟨hupdateSame, hupdate _ _ _ hupdateSame⟩, ⟨hdeleteSame, hdelete _ _ _ hdeleteSame⟩,
    ⟨hwithSame, hwith _ _ _ hwithSame⟩⟩

/-- A row behind a selection takes its place. -/
example :
    (render (Insert.build (.column "t")
      [.values [.raw "1"], .returning [.column "a"], .select {}, .columns [.column "a"],
        .values [.raw "2"]])).value.toOption
        = some "INSERT INTO t (a) VALUES (2) RETURNING a" := by decide

end SqlBuilder
