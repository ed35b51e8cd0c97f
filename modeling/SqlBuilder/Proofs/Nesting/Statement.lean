import SqlBuilder.Proofs.Nesting.Order
import SqlBuilder.Proofs.Rendering.Text

/-!
# Statements of builders

A statement is a builder together with a statement for each of its subqueries.
Its values are read off its fields in document order, those of a subquery where
the subquery stands. They are the parameters of its rendering, and the
placeholders stand in the text in the same order
(`parameters_in_document_order`).
-/

namespace SqlBuilder

/-- The values of an item, given those of subqueries; a null is none. -/
def Item.values {σ : Type} (nested : σ → List Value) : Item σ → List Value
  | .value v => if v.isPreparable then [v] else []
  | .nested statement => nested statement

/-- A builder whose subqueries are numbered, and what stands for each number. -/
inductive Statement where
  | mk (count : Nat) (builder : Builder (Fin count)) (nested : Fin count → Statement)

namespace Statement

def assembled : Statement → Assembled
  | ⟨_, builder, nested⟩ => .ofScript (builder.map fun i => (nested i).assembled).script

/-- The builder with its subqueries assembled. -/
def outline : Statement → Builder Assembled
  | ⟨_, builder, nested⟩ => builder.map fun i => (nested i).assembled

/-- The values that are not null, in document order. -/
def values : Statement → List Value
  | ⟨_, builder, nested⟩ => builder.items.flatMap (Item.values fun i => (nested i).values)

end Statement

instance : Assemble Statement Assembled := ⟨fun s => s.outline.script⟩

/-! ## Walks of many parts -/

namespace Encounter

variable {α : Type} {walk : α → List Encounter}

theorem failure?_flatMap_eq_none {as : List α} :
    failure? (as.flatMap walk) = none ↔ ∀ a ∈ as, failure? (walk a) = none := by
  induction as with
  | nil => simp [failure?]
  | cons a rest ih => rw [List.flatMap_cons, failure?_append_eq_none, ih, List.forall_mem_cons]

theorem parameters_flatMap {as : List α} (h : ∀ a ∈ as, failure? (walk a) = none) :
    parameters (as.flatMap walk) = as.flatMap fun a => parameters (walk a) := by
  induction as with
  | nil => rfl
  | cons a rest ih =>
      obtain ⟨ha, hrest⟩ := List.forall_mem_cons.mp h
      rw [List.flatMap_cons, List.flatMap_cons, parameters_append ha, ih hrest]

theorem parameters_ofValue (v : Value) :
    parameters (ofValue v) = if v.isPreparable then [v] else [] := by
  unfold ofValue
  split <;> rfl

end Encounter

/-! ## What an assembled builder meets -/

namespace Builder

theorem encounters_ofScript (b : Builder Assembled) :
    (Assembled.ofScript b.script).encounters
      = b.rejection.elim (b.items.flatMap Item.encounters)
          fun reason => [.failure (.invalidStatement reason)] := by
  rw [b.forms.assembled]
  cases b.rejection with
  | none =>
      show b.node.encounters = b.items.flatMap Item.encounters
      rw [Node.encounters_eq, b.items_node]
  | some reason => rfl

theorem orderly_ofScript (b : Builder Assembled)
    (h : ∀ a, Item.nested a ∈ b.items → a.Orderly) :
    (Assembled.ofScript b.script).Orderly := by
  rw [b.forms.assembled]
  cases b.rejection with
  | none => exact b.node.orderly b.plain_node fun a ha => h a (b.items_node ▸ ha)
  | some reason => trivial

end Builder

namespace Statement

theorem assembled_eq : ∀ s : Statement, s.assembled = .ofScript s.outline.script
  | ⟨_, _, _⟩ => rfl

/-- What is met in a statement that assembles without failure, subqueries
included, is its values. The induction is over the subqueries. -/
theorem parameters_encounters : ∀ s : Statement,
    Encounter.failure? s.assembled.encounters = none →
      Encounter.parameters s.assembled.encounters = s.values
  | ⟨_, builder, nested⟩, h => by
      rw [assembled, Builder.encounters_ofScript] at h ⊢
      cases hrejection : (builder.map fun i => (nested i).assembled).rejection with
      | some reason =>
        rw [hrejection] at h
        cases h
      | none =>
        rw [hrejection] at h
        rw [Option.elim_none, Builder.items_map, List.flatMap_map] at h ⊢
        have hparts := Encounter.failure?_flatMap_eq_none.mp h
        rw [Encounter.parameters_flatMap hparts, values]
        have hitems : ∀ item ∈ builder.items,
            Encounter.parameters (item.map fun i => (nested i).assembled).encounters
              = item.values fun i => (nested i).values := by
          intro item hitem
          cases item with
          | value v => exact Encounter.parameters_ofValue v
          | nested i => exact (nested i).parameters_encounters (hparts _ hitem)
        rw [List.flatMap_def, List.flatMap_def, List.map_congr_left hitems]

theorem orderly : ∀ s : Statement, s.assembled.Orderly
  | ⟨_, builder, nested⟩ => by
      refine Builder.orderly_ofScript _ fun a ha => ?_
      rw [Builder.items_map, List.mem_map] at ha
      obtain ⟨item, -, hitem⟩ := ha
      cases item with
      | value v => cases hitem
      | nested i =>
          cases hitem
          exact (nested i).orderly

end Statement

/-! ## Rendering -/

theorem Builder.renderTree_script (b : Builder Assembled) (f : Formatter) :
    f.renderTree (Tree.run {} b.script)
      = match b.rejection with
        | none => f.renderNode b.node
        | some reason => (.error (.invalidStatement reason), f) := by
  unfold Formatter.renderTree
  rw [b.forms.root]
  cases b.rejection <;> rfl

theorem Builder.render_value (b : Builder Assembled) (config : RenderConfig) :
    (render b config).value
      = match b.rejection with
        | none => ((Formatter.new .literal config).renderNode b.node).1
        | some reason => .error (.invalidStatement reason) := by
  refine ((Tree.run {} b.script).render_value config).trans ?_
  rw [renderTree_script]
  cases b.rejection <;> rfl

theorem Builder.renderPrepared_value (b : Builder Assembled) (config : RenderConfig) :
    (renderPrepared b config).value
      = match b.rejection with
        | none => ((Formatter.new .prepared config).renderNode b.node).1.map fun sql =>
            ⟨sql, ((Formatter.new .prepared config).renderNode b.node).2.params⟩
        | some reason => .error (.invalidStatement reason) := by
  refine ((Tree.run {} b.script).renderPrepared_value config).trans ?_
  rw [renderTree_script]
  cases b.rejection <;> rfl

/-- Whenever a statement made of builders, nested to any depth, renders as a
prepared statement, the parameters are its values in document order. The text
has one slot for each of them, in the same order: the first value stands in the
first slot, under the number one. Prepared, the slots hold placeholders, and
literals otherwise. -/
theorem parameters_in_document_order (s : Statement) (config : RenderConfig)
    (p : PreparedStatement) (h : (renderPrepared s config).value = .ok p) :
    p.params = s.values
      ∧ ∃ t : Template, t.slots = s.values.zipIdx 1
        ∧ p.sql = t.fill (fun index _ => config.placeholderStyle.placeholder index)
        ∧ (render s config).value = .ok (t.fill fun _ value => value.literal) := by
  have hvalue := s.outline.renderPrepared_value config
  rw [show renderPrepared s.outline config = renderPrepared s config from rfl, h] at hvalue
  have hassembled := s.assembled_eq.trans s.outline.forms.assembled
  split at hvalue
  · rename_i hrejection
    rw [hrejection] at hassembled
    let root := s.outline.node
    obtain ⟨hprepared, hparams⟩ := (Formatter.new .prepared config).renderNode_spec root
    obtain ⟨hliteral, -⟩ := (Formatter.new .literal config).renderNode_spec root
    rw [hprepared, hparams, Encounter.map_outcome] at hvalue
    obtain ⟨hfail, rfl⟩ := Encounter.outcome_eq_ok.mp hvalue.symm
    have hvalues : Encounter.parameters root.encounters = s.values := by
      have := s.parameters_encounters
      rw [hassembled] at this
      exact this hfail
    have horderly : root.Orderly := by
      have := s.orderly
      rwa [hassembled] at this
    obtain ⟨-, hslots⟩ := root.carries config hfail
    refine ⟨hvalues, root.template config, ?_, ?_, ?_⟩
    · rw [hslots horderly, Encounter.numbered, hvalues]
    · refine congrArg (Template.fill · _) ?_
      funext index value
      exact congrArg config.placeholderStyle.placeholder (Nat.zero_add index)
    · refine (s.outline.render_value config).trans ?_
      rw [hrejection, hliteral, Encounter.outcome_of_none hfail]
      rfl
  · cases hvalue

/-- A subquery with a value of its own, between two values. -/
def Statement.interleaved : Statement :=
  let number (n : Int64) : Value := .scalar (.int64 n)
  let adults : Statement :=
    ⟨0, .select
      { outputs := [.column "id"]
        sources := [.column "users"]
        restriction := some (.compare (.column "age") ">=" (.value (number 18))) },
      Fin.elim0⟩
  ⟨1, .select
    { outputs := [.value (number 7)]
      restriction := some (.inside (.column "id") (.nested 0))
      rowLimit := some (.value (number 10)) },
    fun _ => adults⟩

theorem parameters_in_document_order_interleaved :
    ∃ p, (renderPrepared Statement.interleaved ⟨.numbered, false⟩).value = .ok p
      ∧ p.sql = "SELECT $1 WHERE id IN (SELECT id FROM users WHERE age >= $2) LIMIT $3"
      ∧ p.params = Statement.interleaved.values
      ∧ ∃ t : Template, t.slots = Statement.interleaved.values.zipIdx 1
        ∧ p.sql = t.fill (fun index _ => PlaceholderStyle.numbered.placeholder index)
        ∧ (render Statement.interleaved ⟨.numbered, false⟩).value
            = .ok (t.fill fun _ value => value.literal) :=
  ⟨_, rfl, by decide, parameters_in_document_order Statement.interleaved _ _ rfl⟩

example :
    let number : Value := .scalar (.int32 1)
    let rows : Expression (Fin 0) := .list [.column "a", .value number]
    let s : Statement :=
      ⟨0, .select { restriction := some (.ofPredicate (.existence rows true)) }, Fin.elim0⟩
    (renderPrepared s ⟨.numbered, false⟩).value.toOption.map (·.sql)
        = some "SELECT * WHERE NOT EXISTS (a, $1)"
      ∧ s.values = [number] :=
  ⟨by decide, rfl⟩

end SqlBuilder
