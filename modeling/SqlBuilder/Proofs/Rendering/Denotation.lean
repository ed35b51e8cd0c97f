import SqlBuilder.Proofs.Rendering.Encounter
import SqlBuilder.Proofs.Rendering.Template

/-!
# What rendering computes

Rendering runs in a monad that collects while it goes on. Here it is split
into two functions that do not: the encounters of a walk and a template, which
numbers its slots from one. `Denotes` relates a computation to these two for
one style and every state it may start from; the laws of `Denotes` follow the
monad, and `Node.denotes` with its companions follow the tree.

Slots are numbered in the order in which the walk meets their values, which
need not be the order in which they stand in the text.
-/

namespace SqlBuilder

/-! ## Templates of trees -/

/-- How many parameters a walk collects. -/
def Encounter.count (xs : List Encounter) : Nat := (Encounter.parameters xs).length

/-- A value that can be a parameter is a slot, null is fixed text. -/
def Template.ofValue (v : Value) : Template :=
  if v.isPreparable then [.slot 1 v] else [.fixed v.literal]

mutual

/-- The template of an assembled statement; of no account if it has no root. -/
def Assembled.template (config : RenderConfig) : Assembled → Template
  | .complete _ root => root.template config
  | .failed _ _ => []

/-- The template of a node. The token's slots are numbered behind those of all
leaves, wherever the token stands. -/
def Node.template (config : RenderConfig) : Node Assembled → Template
  | ⟨⟨token, position, parentheses, joinNodes⟩, leaves, children, delimiter⟩ =>
      let leafCount := Encounter.count (Token.encountersAll leaves)
      let tokenCount := Encounter.count (Token.encountersOption token)
      let metadata : Metadata Assembled := ⟨token, position, parentheses, joinNodes⟩
      Template.layout metadata delimiter (Token.templates config leaves)
        ((Token.templateOption config token).map (Template.shift leafCount))
        ((Node.templates config children).map (Template.shift (leafCount + tokenCount)))

def Node.templates (config : RenderConfig) : List (Node Assembled) → List Template
  | [] => []
  | node :: rest =>
      node.template config
        :: (Node.templates config rest).map (Template.shift (Encounter.count node.encounters))

def Token.templateOption (config : RenderConfig) : Option (Token Assembled) → Option Template
  | none => none
  | some token => some (token.template config)

def Token.template (config : RenderConfig) : Token Assembled → Template
  | .keyword name => [.fixed name]
  | .operator name => [.fixed name]
  | .expression e => e.template config

def Token.templates (config : RenderConfig) : List (Token Assembled) → List Template
  | [] => []
  | token :: rest =>
      token.template config
        :: (Token.templates config rest).map (Template.shift (Encounter.count token.encounters))

def Expression.template (config : RenderConfig) : Expression Assembled → Template
  | .text content kind suffix => Template.attach suffix [.fixed (kind.layout config content)]
  | .value v suffix => Template.attach suffix (Template.ofValue v)
  | .list elements suffix =>
      Template.attach suffix
        (Template.parenthesize (Template.intercalate ", " (Expression.templates config elements)))
  | .array elements suffix =>
      Template.attach suffix (Template.array (Expression.templates config elements))
  | .call name arguments suffix =>
      Template.attach suffix
        (Template.call name arguments (Expression.templates config arguments)
          suffix.aliased.isSome)
  | .nested statement suffix =>
      Template.attach suffix (Template.parenthesize (statement.template config))

def Expression.templates (config : RenderConfig) : List (Expression Assembled) → List Template
  | [] => []
  | e :: rest =>
      e.template config
        :: (Expression.templates config rest).map (Template.shift (Encounter.count e.encounters))

end

/-! ## Styles as fillings -/

namespace Style

/-- What stands in a slot in a style, when so many parameters have been
collected before. -/
def filling (style : Style) (before : Nat) : Filling := fun index value =>
  match style.mode with
  | .literal => value.literal
  | .prepared => style.config.placeholderStyle.placeholder (before + index)

/-- What a style collects of a walk. -/
def collects (style : Style) (xs : List Encounter) : List Value :=
  match style.mode with
  | .literal => []
  | .prepared => Encounter.parameters xs

theorem filling_shows (style : Style) (before : Nat) :
    Template.Shows (style.filling before) := by
  intro index value
  unfold filling
  split
  · exact value.literal_ne_empty
  · exact PlaceholderStyle.placeholder_ne_empty _ _

/-- Filling behind a walk is filling with the numbers moved up by its count. -/
theorem fill_behind (style : Style) (before : Nat) (xs : List Encounter) (t : Template) :
    t.fill (style.filling (before + (style.collects xs).length))
      = (t.shift (Encounter.count xs)).fill (style.filling before) := by
  rw [Template.fill_shift]
  congr 1
  funext index value
  unfold filling collects Encounter.count
  cases style.mode with
  | literal => rfl
  | prepared => simp [Nat.add_assoc]

@[simp] theorem collects_nil (style : Style) : style.collects [] = [] := by
  unfold collects
  split <;> rfl

@[simp] theorem collects_failure (style : Style) (e : BuilderError) :
    style.collects [.failure e] = [] := by
  unfold collects
  split <;> rfl

theorem map_fill_behind (style : Style) (before : Nat) (xs : List Encounter)
    (ts : List Template) :
    ts.map (Template.fill (style.filling (before + (style.collects xs).length)))
      = (ts.map (Template.shift (Encounter.count xs))).map
          (Template.fill (style.filling before)) := by
  rw [List.map_map]
  exact List.map_congr_left fun t _ => style.fill_behind before xs t

theorem option_fill_behind (style : Style) (before : Nat) (xs : List Encounter)
    (t : Option Template) :
    t.map (Template.fill (style.filling (before + (style.collects xs).length)))
      = (t.map (Template.shift (Encounter.count xs))).map
          (Template.fill (style.filling before)) := by
  cases t with
  | none => rfl
  | some t => exact congrArg some (style.fill_behind before xs t)

theorem collects_append {xs : List Encounter} (style : Style)
    (h : Encounter.failure? xs = none) (ys : List Encounter) :
    style.collects (xs ++ ys) = style.collects xs ++ style.collects ys := by
  unfold collects
  cases style.mode with
  | literal => rfl
  | prepared => exact Encounter.parameters_append h ys

theorem collects_append_of_failure {xs : List Encounter} {e : BuilderError} (style : Style)
    (h : Encounter.failure? xs = some e) (ys : List Encounter) :
    style.collects (xs ++ ys) = style.collects xs := by
  unfold collects
  cases style.mode with
  | literal => rfl
  | prepared => exact Encounter.parameters_append_of_failure h ys

end Style

/-! ## Denotations of computations -/

/-- The outcome of a walk with a result: the first failure wins. -/
def Encounter.outcome {α : Type} (xs : List Encounter) (a : α) : Except BuilderError α :=
  match Encounter.failure? xs with
  | none => .ok a
  | some e => .error e

theorem Encounter.outcome_of_none {α : Type} {xs : List Encounter} (h : failure? xs = none)
    (a : α) : outcome xs a = .ok a := by
  rw [outcome, h]

theorem Encounter.outcome_eq_ok {α : Type} {xs : List Encounter} {a b : α} :
    outcome xs a = .ok b ↔ failure? xs = none ∧ a = b := by
  unfold outcome
  cases failure? xs with
  | none => simp
  | some e => simp

theorem Encounter.map_outcome {α β : Type} (f : α → β) (xs : List Encounter) (a : α) :
    (outcome xs a).map f = outcome xs (f a) := by
  unfold outcome
  cases failure? xs <;> rfl

theorem Render.run_bind {α β : Type} (act : Render α) (next : α → Render β) (c : Collected) :
    (act >>= next).run.run c
      = match act.run.run c with
        | (.ok a, c') => (next a).run.run c'
        | (.error e, c') => (.error e, c') := by
  rw [ExceptT.run_bind, StateT.run_bind]
  cases h : act.run.run c with
  | mk result c' => cases result <;> rfl

/-- From every state, the computation makes a walk and collects what the style
collects of it. Its result depends on the state only through how many
parameters there were before. -/
structure Denotes {α : Type} (style : Style) (act : Render α) (xs : List Encounter)
    (result : Nat → α) : Prop where
  outcome : ∀ c, (act.run.run c).1 = Encounter.outcome xs (result c.params.length)
  params : ∀ c, (act.run.run c).2.params = c.params ++ style.collects xs

namespace Denotes

variable {α β : Type} {style : Style}

theorem ofPure (a : α) : Denotes style (pure a) [] (fun _ => a) where
  outcome _ := rfl
  params c := by rw [style.collects_nil, List.append_nil]; rfl

theorem ofNote (events : List Event) : Denotes style (Render.note events) [] (fun _ => ()) where
  outcome _ := rfl
  params c := by rw [style.collects_nil, List.append_nil]; rfl

theorem ofThrow (e : BuilderError) (result : Nat → α) :
    Denotes style (throw e) [.failure e] result where
  outcome _ := rfl
  params c := by rw [style.collects_failure, List.append_nil]; rfl

/-- Both cases of a run, with all that is known of them. -/
theorem run_cases {act : Render α} {xs : List Encounter} {result : Nat → α}
    (h : Denotes style act xs result) (c : Collected) :
    ∃ c', c'.params = c.params ++ style.collects xs
      ∧ ((Encounter.failure? xs = none ∧ act.run.run c = (.ok (result c.params.length), c'))
        ∨ ∃ e, Encounter.failure? xs = some e ∧ act.run.run c = (.error e, c')) := by
  have hout := h.outcome c
  refine ⟨(act.run.run c).2, h.params c, ?_⟩
  unfold Encounter.outcome at hout
  split at hout
  · rename_i hfail
    exact Or.inl ⟨hfail, Prod.ext hout rfl⟩
  · rename_i e hfail
    exact Or.inr ⟨e, hfail, Prod.ext hout rfl⟩

theorem bind {act : Render α} {next : α → Render β} {xs ys : List Encounter}
    {first : Nat → α} {second : Nat → Nat → β} (hact : Denotes style act xs first)
    (hnext : ∀ before, Denotes style (next (first before)) ys (second before)) :
    Denotes style (act >>= next) (xs ++ ys)
      (fun before => second before (before + (style.collects xs).length)) := by
  constructor
  · intro c
    obtain ⟨c', hpar, ⟨hfail, hrun⟩ | ⟨e, hfail, hrun⟩⟩ := hact.run_cases c
    · rw [Render.run_bind, hrun]
      simp only
      rw [(hnext _).outcome c', hpar, List.length_append]
      simp [Encounter.outcome, Encounter.failure?_append, hfail]
    · rw [Render.run_bind, hrun]
      simp [Encounter.outcome, Encounter.failure?_append, hfail]
  · intro c
    obtain ⟨c', hpar, ⟨hfail, hrun⟩ | ⟨e, hfail, hrun⟩⟩ := hact.run_cases c
    · rw [Render.run_bind, hrun]
      simp only
      rw [(hnext _).params c', hpar, style.collects_append hfail, List.append_assoc]
    · rw [Render.run_bind, hrun]
      simp only
      rw [hpar, style.collects_append_of_failure hfail]

theorem congr {act : Render α} {xs : List Encounter} {first second : Nat → α}
    (hact : Denotes style act xs first) (h : ∀ before, first before = second before) :
    Denotes style act xs second :=
  (funext h : first = second) ▸ hact

theorem map {act : Render α} {xs : List Encounter} {first : Nat → α} (f : α → β)
    (hact : Denotes style act xs first) :
    Denotes style (act >>= fun a => pure (f a)) xs (fun before => f (first before)) := by
  rw [← List.append_nil xs]
  exact Denotes.congr (Denotes.bind hact fun before => ofPure (f (first before)))
    fun _ => rfl

theorem ofCollect (config : RenderConfig) (v : Value) :
    Denotes ⟨.prepared, config⟩ (Render.collect v) [.parameter v] (fun before => before + 1) where
  outcome c := congrArg Except.ok (List.length_append : (c.params ++ [v]).length = _)
  params _ := rfl

/-- A value collects itself, unless it is null or the style is literal. -/
theorem ofValue (v : Value) :
    Denotes style (Render.value style v) (Encounter.ofValue v)
      (fun before => (Template.ofValue v).fill (style.filling before)) := by
  obtain ⟨mode, config⟩ := style
  unfold Render.value Encounter.ofValue Template.ofValue
  cases hv : v.isPreparable with
  | false =>
      simp only [Bool.false_eq_true, and_false, if_false]
      exact (ofPure v.literal).congr fun before => by simp [Piece.fill]
  | true =>
      cases mode with
      | literal =>
          simp only [reduceCtorEq, false_and, if_false, if_true]
          have hfill (before : Nat) : v.literal
              = Template.fill (Style.filling ⟨.literal, config⟩ before) [.slot 1 v] := by
            simp [Piece.fill, Style.filling]
          exact ⟨fun c => congrArg Except.ok (hfill c.params.length),
            fun c => (List.append_nil c.params).symm⟩
      | prepared =>
          simp only [true_and, if_true]
          exact ((ofCollect config v).map config.placeholderStyle.placeholder).congr
            fun before => by simp [Piece.fill, Style.filling]

end Denotes

/-! ## Denotations of trees

One case for each constructor, as rendering has it: the induction is over the
tree with all subqueries in it. -/

namespace Denotes

variable {α : Type} {style : Style}

theorem afterNote {act : Render α} {xs : List Encounter} {result : Nat → α}
    (events : List Event) (hact : Denotes style act xs result) :
    Denotes style (do Render.note events; act) xs result := by
  refine Denotes.congr (Denotes.bind (ofNote events) fun _ => hact) fun before => ?_
  simp

/-- Texts one after the other: the templates behind the first are numbered
behind its walk. -/
theorem cons {first : Render String} {others : Render (List String)} {xs ys : List Encounter}
    {t : Template} {ts : List Template}
    (hfirst : Denotes style first xs fun before => t.fill (style.filling before))
    (hothers : Denotes style others ys fun before =>
      ts.map (Template.fill (style.filling before))) :
    Denotes style (do let text ← first; return text :: (← others)) (xs ++ ys)
      (fun before => (t :: ts.map (Template.shift (Encounter.count xs))).map
        (Template.fill (style.filling before))) := by
  refine Denotes.congr (Denotes.bind hfirst fun before =>
    hothers.map (t.fill (style.filling before) :: ·)) fun before => ?_
  rw [List.map_cons, ← style.map_fill_behind]

end Denotes

mutual

theorem Assembled.denotes (style : Style) : ∀ a : Assembled,
    Denotes style (a.render style) a.encounters fun before =>
      (a.template style.config).fill (style.filling before)
  | .complete log root => by
      rw [Assembled.render, Assembled.encounters, Assembled.template]
      exact (root.denotes style).afterNote log
  | .failed log e => by
      rw [Assembled.render, Assembled.encounters]
      exact (Denotes.ofThrow e _).afterNote log

theorem Node.denotes (style : Style) : ∀ n : Node Assembled,
    Denotes style (n.render style) n.encounters fun before =>
      (n.template style.config).fill (style.filling before)
  | ⟨⟨token, position, parentheses, joinNodes⟩, leaves, children, delimiter⟩ => by
      rw [Node.render, Node.encounters, Node.template, List.append_assoc]
      refine Denotes.congr (Denotes.bind (Token.denotesAll style leaves) fun before =>
        Denotes.bind (Token.denotesOption style token) fun behindLeaves =>
          (Node.denotesAll style children).map _) fun before => ?_
      rw [style.map_fill_behind, style.map_fill_behind, style.option_fill_behind,
        Template.map_shift_shift, Template.fill_layout (style.filling_shows before)]

theorem Node.denotesAll (style : Style) : ∀ nodes : List (Node Assembled),
    Denotes style (Node.renderAll style nodes) (Node.encountersAll nodes) fun before =>
      (Node.templates style.config nodes).map (Template.fill (style.filling before))
  | [] => Denotes.ofPure []
  | node :: rest => (node.denotes style).cons (Node.denotesAll style rest)

theorem Token.denotesOption (style : Style) : ∀ token : Option (Token Assembled),
    Denotes style (Token.renderOption style token) (Token.encountersOption token) fun before =>
      (Token.templateOption style.config token).map (Template.fill (style.filling before))
  | none => Denotes.ofPure none
  | some token => (token.denotes style).map some

theorem Token.denotes (style : Style) : ∀ token : Token Assembled,
    Denotes style (token.render style) token.encounters fun before =>
      (token.template style.config).fill (style.filling before)
  | .keyword name => (Denotes.ofPure name).congr fun before => by
      simp [Token.template, Piece.fill]
  | .operator name => (Denotes.ofPure name).congr fun before => by
      simp [Token.template, Piece.fill]
  | .expression e => e.denotes style

theorem Token.denotesAll (style : Style) : ∀ tokens : List (Token Assembled),
    Denotes style (Token.renderAll style tokens) (Token.encountersAll tokens) fun before =>
      (Token.templates style.config tokens).map (Template.fill (style.filling before))
  | [] => Denotes.ofPure []
  | token :: rest => (token.denotes style).cons (Token.denotesAll style rest)

theorem Expression.denotes (style : Style) : ∀ e : Expression Assembled,
    Denotes style (e.render style) e.encounters fun before =>
      (e.template style.config).fill (style.filling before)
  | .text content kind suffix => by
      rw [Expression.render, Expression.encounters, Expression.template]
      refine ((Denotes.ofPure _).afterNote _).congr fun before => ?_
      simp [Template.fill_attach, Piece.fill]
  | .value v suffix => by
      rw [Expression.render, Expression.encounters, Expression.template]
      refine ((Denotes.ofValue v).map suffix.attach).congr fun before => ?_
      rw [Template.fill_attach]
  | .list elements suffix => by
      rw [Expression.render, Expression.encounters, Expression.template]
      refine ((Expression.denotesAll style elements).map _).congr fun before => ?_
      rw [Template.fill_attach, Template.fill_parenthesize, Template.fill_intercalate]
      rfl
  | .array elements suffix => by
      rw [Expression.render, Expression.encounters, Expression.template]
      refine ((Expression.denotesAll style elements).map _).congr fun before => ?_
      rw [Template.fill_attach, Template.fill_array]
  | .call name arguments suffix => by
      rw [Expression.render, Expression.encounters, Expression.template]
      refine ((Expression.denotesAll style arguments).map _).congr fun before => ?_
      rw [Template.fill_attach, Template.fill_call]
  | .nested statement suffix => by
      rw [Expression.render, Expression.encounters, Expression.template]
      refine ((statement.denotes style).map _).congr fun before => ?_
      rw [Template.fill_attach, Template.fill_parenthesize]

theorem Expression.denotesAll (style : Style) : ∀ es : List (Expression Assembled),
    Denotes style (Expression.renderAll style es) (Expression.encountersAll es) fun before =>
      (Expression.templates style.config es).map (Template.fill (style.filling before))
  | [] => Denotes.ofPure []
  | e :: rest => (e.denotes style).cons (Expression.denotesAll style rest)

end

end SqlBuilder
