import SqlBuilder.Proofs.Rendering.Requests

/-!
# Tokens in front of leaves

A node meets all of its leaves before its token, wherever the token is written. So the
numbers in the text go up from left to right just if no token that meets parameters is
written in front of leaves that meet some too (`Node.InOrder`). With numbered placeholders
the numbers tell which parameter is meant. Where they are all written alike, the first
placeholder of a node that is not in order takes the parameter of a later one
(`placeholders_in_order_iff`).
-/

namespace SqlBuilder

mutual

/-- No token that meets something is written in front of leaves that do, in subqueries
neither. -/
def Assembled.InOrder : Assembled → Prop
  | .complete _ root => root.InOrder
  | .failed _ _ => True

def Node.InOrder : Node Assembled → Prop
  | ⟨⟨token, position, _, _⟩, leaves, children, _⟩ =>
      (Token.encountersOption token = [] ∨ Token.encountersAll (leaves.drop position) = [])
        ∧ Token.InOrderAll leaves ∧ Token.InOrderOption token ∧ Node.InOrderAll children

def Node.InOrderAll : List (Node Assembled) → Prop
  | [] => True
  | node :: rest => node.InOrder ∧ Node.InOrderAll rest

def Token.InOrderOption : Option (Token Assembled) → Prop
  | none => True
  | some token => token.InOrder

def Token.InOrder : Token Assembled → Prop
  | .keyword _ => True
  | .operator _ => True
  | .expression e => e.InOrder

def Token.InOrderAll : List (Token Assembled) → Prop
  | [] => True
  | token :: rest => token.InOrder ∧ Token.InOrderAll rest

def Expression.InOrder : Expression Assembled → Prop
  | .text _ _ _ => True
  | .value _ _ => True
  | .list elements _ => Expression.InOrderAll elements
  | .array elements _ => Expression.InOrderAll elements
  | .call _ arguments _ => Expression.InOrderAll arguments
  | .nested statement _ => statement.InOrder

def Expression.InOrderAll : List (Expression Assembled) → Prop
  | [] => True
  | e :: rest => e.InOrder ∧ Expression.InOrderAll rest

end

/-! ## Ascending numbers -/

/-- The numbers of the slots go up from left to right. -/
def Ascending (slots : List (Value × Nat)) : Prop := slots.Pairwise fun s s' => s.2 < s'.2

theorem ascending_zipIdx (values : List Value) (n : Nat) : Ascending (values.zipIdx n) := by
  induction values generalizing n with
  | nil => exact List.Pairwise.nil
  | cons v rest ih =>
      refine List.Pairwise.cons (fun s hs => ?_) (ih (n + 1))
      exact Nat.lt_of_succ_le (List.mem_zipIdx hs).1

section Ascending

variable {a b t : List (Value × Nat)} {n : Nat}

theorem lt_of_mem_shift (hb : ∀ s ∈ b, 1 ≤ s.2) :
    ∀ s ∈ b.map (Prod.map id (n + ·)), n < s.2 := by
  intro s hs
  obtain ⟨s', hs', rfl⟩ := List.mem_map.mp hs
  have := hb s' hs'
  simp only [Prod.map_snd]
  omega

/-- Behind other slots there are larger numbers. -/
theorem ascending_append (ha : ∀ s ∈ a, s.2 ≤ n) (hb : ∀ s ∈ b, 1 ≤ s.2) :
    Ascending (a ++ b.map (Prod.map id (n + ·))) ↔ Ascending a ∧ Ascending b := by
  have hacross : ∀ s ∈ a, ∀ s' ∈ b.map (Prod.map id (n + ·)), s.2 < s'.2 :=
    fun s hs s' hs' => Nat.lt_of_le_of_lt (ha s hs) (lt_of_mem_shift hb s' hs')
  unfold Ascending
  rw [List.pairwise_append, List.pairwise_map]
  simp only [Prod.map_snd, Nat.add_lt_add_iff_left]
  exact ⟨fun h => ⟨h.1, h.2.1⟩, fun h => ⟨h.1, h.2, hacross⟩⟩

/-- Slots with larger numbers may stand in the middle only if nothing comes behind them. -/
theorem ascending_insert (hab : ∀ s ∈ a ++ b, s.2 ≤ n) (ht : ∀ s ∈ t, 1 ≤ s.2) :
    Ascending (a ++ t.map (Prod.map id (n + ·)) ++ b)
      ↔ (t = [] ∨ b = []) ∧ Ascending (a ++ b) ∧ Ascending t := by
  cases b with
  | nil =>
      rw [List.append_nil] at hab
      simpa using ascending_append hab ht
  | cons s b =>
      cases t with
      | nil => simp [Ascending]
      | cons s' t =>
          refine iff_of_false (fun h => ?_) fun h => by simp at h
          have hlarge : n < (Prod.map id (n + ·) s').2 :=
            lt_of_mem_shift ht _ (List.mem_map_of_mem (List.mem_cons_self ..))
          have hsmall : s.2 ≤ n := hab s (by simp)
          have hacross : (Prod.map id (n + ·) s').2 < s.2 :=
            (List.pairwise_append.mp h).2.2 _ (by simp) s (List.mem_cons_self ..)
          exact absurd (Nat.lt_trans hlarge hacross) (Nat.not_lt_of_le hsmall)

end Ascending

/-! ## The slots of a walk -/

namespace Carries

variable {p : Prop} {slots : List (Value × Nat)} {xs : List Encounter}

theorem bounds (h : Carries p slots xs) (hxs : Encounter.failure? xs = none) :
    ∀ s ∈ slots, 1 ≤ s.2 ∧ s.2 ≤ Encounter.count xs := by
  intro s hs
  have hmem := List.mem_zipIdx ((h hxs).1.mem_iff.mp hs)
  unfold Encounter.count
  omega

theorem eq_nil_iff (h : Carries p slots xs) (hxs : Encounter.failure? xs = none) :
    slots = [] ↔ xs = [] := by
  have hperm := (h hxs).1
  constructor
  · rintro rfl
    have hparams := List.zipIdx_eq_nil_iff.mp hperm.nil_eq.symm
    rw [Encounter.eq_of_failure?_none hxs, hparams, List.map_nil]
  · rintro rfl
    exact hperm.eq_nil

/-- Slots with ascending numbers are the parameters in their order. -/
theorem ascending_iff (h : Carries p slots xs) (hxs : Encounter.failure? xs = none) :
    Ascending slots ↔ slots = (Encounter.parameters xs).zipIdx 1 := by
  constructor
  · intro hslots
    refine (h hxs).1.eq_of_pairwise (fun s s' _ _ hlt hgt => ?_) hslots (ascending_zipIdx _ 1)
    exact absurd hlt (Nat.lt_asymm hgt)
  · intro heq
    rw [heq]
    exact ascending_zipIdx _ 1

end Carries

/-- Without a failure, the numbers go up just if this holds. -/
def Ascends (p : Prop) (slots : List (Value × Nat)) (xs : List Encounter) : Prop :=
  Encounter.failure? xs = none → (Ascending slots ↔ p)

namespace Ascends

variable {p q r : Prop}

theorem nil : Ascends True [] [] := fun _ => iff_of_true List.Pairwise.nil trivial

theorem ofValue (v : Value) :
    Ascends True (Template.ofValue v).slots (Encounter.ofValue v) := by
  unfold Template.ofValue Encounter.ofValue
  split
  · exact fun _ => iff_of_true (List.pairwise_singleton _ _) trivial
  · exact nil

theorem cons {carried carried' : Prop} {t : Template} {ts : List Template}
    {xs ys : List Encounter} (ht : Ascends p t.slots xs)
    (hts : Ascends q (ts.flatMap Template.slots) ys) (htc : Carries carried t.slots xs)
    (htsc : Carries carried' (ts.flatMap Template.slots) ys) :
    Ascends (p ∧ q)
      ((t :: ts.map (Template.shift (Encounter.count xs))).flatMap Template.slots)
      (xs ++ ys) := by
  intro h
  obtain ⟨hxs, hys⟩ := Encounter.failure?_append_eq_none.mp h
  rw [List.flatMap_cons, Template.flatMap_slots_shift,
    ascending_append (fun s hs => (htc.bounds hxs s hs).2) fun s hs => (htsc.bounds hys s hs).1,
    ht hxs, hts hys]

/-- What the token meets is numbered behind all leaves, so it must be written behind all
leaves that meet something. -/
theorem layout (m : Metadata Assembled) (delimiter : String) {leaves children : List Template}
    {token : Option Template} {carried carried' carried'' : Prop} {xs ys zs : List Encounter}
    (hleaves : Ascends p (leaves.flatMap Template.slots) xs)
    (htoken : Ascends q (token.toList.flatMap Template.slots) ys)
    (hchildren : Ascends r (children.flatMap Template.slots) zs)
    (hleavesc : Carries carried (leaves.flatMap Template.slots) xs)
    (htokenc : Carries carried' (token.toList.flatMap Template.slots) ys)
    (hchildrenc : Carries carried'' (children.flatMap Template.slots) zs) :
    Ascends
      ((token.toList.flatMap Template.slots = []
          ∨ (leaves.drop m.position).flatMap Template.slots = []) ∧ p ∧ q ∧ r)
      (Template.layout m delimiter leaves (token.map (Template.shift (Encounter.count xs)))
        (children.map (Template.shift (Encounter.count xs + Encounter.count ys)))).slots
      (xs ++ (ys ++ zs)) := by
  intro h
  obtain ⟨hxs, hyzs⟩ := Encounter.failure?_append_eq_none.mp h
  obtain ⟨hys, hzs⟩ := Encounter.failure?_append_eq_none.mp hyzs
  have htoken' : (token.map (Template.shift (Encounter.count xs))).toList.flatMap Template.slots
      = (token.toList.flatMap Template.slots).map (Prod.map id (Encounter.count xs + ·)) := by
    cases token <;> simp [Template.slots_shift]
  have hparts : (leaves.take m.position).flatMap Template.slots
      ++ (leaves.drop m.position).flatMap Template.slots = leaves.flatMap Template.slots := by
    rw [← List.flatMap_append, List.take_append_drop]
  have hfirst : ∀ s ∈ (leaves.take m.position).flatMap Template.slots
      ++ (leaves.drop m.position).flatMap Template.slots, s.2 ≤ Encounter.count xs := by
    rw [hparts]
    exact fun s hs => (hleavesc.bounds hxs s hs).2
  have hmiddle : ∀ s ∈ (token.toList.flatMap Template.slots).map
      (Prod.map id (Encounter.count xs + ·)), s.2 ≤ Encounter.count xs + Encounter.count ys := by
    intro s hs
    obtain ⟨s', hs', rfl⟩ := List.mem_map.mp hs
    exact Nat.add_le_add_left (htokenc.bounds hys s' hs').2 _
  rw [Template.slots_layout, htoken', Template.flatMap_slots_shift,
    ascending_append ?_ fun s hs => (hchildrenc.bounds hzs s hs).1,
    ascending_insert hfirst fun s hs => (htokenc.bounds hys s hs).1, hparts, hleaves hxs,
    htoken hys, hchildren hzs, and_assoc, and_assoc]
  intro s hs
  rw [List.append_assoc, List.mem_append, List.mem_append] at hs
  rcases hs with hs | hs | hs
  · exact Nat.le_trans (hfirst s (List.mem_append_left _ hs)) (Nat.le_add_right ..)
  · exact hmiddle s hs
  · exact Nat.le_trans (hfirst s (List.mem_append_right _ hs)) (Nat.le_add_right ..)

end Ascends

/-! ## Templates of trees -/

/-- Leaves behind a position have no slots if they meet nothing. -/
theorem Token.slots_drop_eq_nil_iff (config : RenderConfig) : ∀ (n : Nat)
    (tokens : List (Token Assembled)),
    Encounter.failure? (Token.encountersAll tokens) = none →
      (((Token.templates config tokens).drop n).flatMap Template.slots = []
        ↔ Token.encountersAll (tokens.drop n) = [])
  | 0, tokens, h => (Token.carriesAll config tokens).eq_nil_iff h
  | _ + 1, [], _ => iff_of_true rfl rfl
  | n + 1, token :: rest, h => by
      obtain ⟨-, hrest⟩ := Encounter.failure?_append_eq_none.mp h
      rw [Token.templates, List.drop_succ_cons, List.drop_succ_cons, ← List.map_drop,
        Template.flatMap_slots_shift, List.map_eq_nil_iff]
      exact Token.slots_drop_eq_nil_iff config n rest hrest

mutual

theorem Assembled.ascends (config : RenderConfig) : ∀ a : Assembled,
    Ascends a.InOrder (a.template config).slots a.encounters
  | .complete _ root => root.ascends config
  | .failed _ _ => fun h => by cases h

theorem Node.ascends (config : RenderConfig) : ∀ n : Node Assembled,
    Ascends n.InOrder (n.template config).slots n.encounters
  | ⟨⟨token, position, parentheses, joinNodes⟩, leaves, children, delimiter⟩ => by
      rw [Node.template, Node.encounters, List.append_assoc]
      intro h
      obtain ⟨hleaves, hrest⟩ := Encounter.failure?_append_eq_none.mp h
      obtain ⟨htoken, -⟩ := Encounter.failure?_append_eq_none.mp hrest
      have hlayout := Ascends.layout ⟨token, position, parentheses, joinNodes⟩ delimiter
        (Token.ascendsAll config leaves) (Token.ascendsOption config token)
        (Node.ascendsAll config children) (Token.carriesAll config leaves)
        (Token.carriesOption config token) (Node.carriesAll config children)
      rw [hlayout h, (Token.carriesOption config token).eq_nil_iff htoken,
        Token.slots_drop_eq_nil_iff config position leaves hleaves, Node.InOrder]

theorem Node.ascendsAll (config : RenderConfig) : ∀ nodes : List (Node Assembled),
    Ascends (Node.InOrderAll nodes) ((Node.templates config nodes).flatMap Template.slots)
      (Node.encountersAll nodes)
  | [] => Ascends.nil
  | node :: rest => (node.ascends config).cons (Node.ascendsAll config rest)
      (node.carries config) (Node.carriesAll config rest)

theorem Token.ascendsOption (config : RenderConfig) : ∀ token : Option (Token Assembled),
    Ascends (Token.InOrderOption token)
      ((Token.templateOption config token).toList.flatMap Template.slots)
      (Token.encountersOption token)
  | none => Ascends.nil
  | some token => by
      rw [Token.templateOption, Token.encountersOption, Option.toList_some,
        List.flatMap_singleton]
      exact token.ascends config

theorem Token.ascends (config : RenderConfig) : ∀ token : Token Assembled,
    Ascends token.InOrder (token.template config).slots token.encounters
  | .keyword _ => Ascends.nil
  | .operator _ => Ascends.nil
  | .expression e => e.ascends config

theorem Token.ascendsAll (config : RenderConfig) : ∀ tokens : List (Token Assembled),
    Ascends (Token.InOrderAll tokens) ((Token.templates config tokens).flatMap Template.slots)
      (Token.encountersAll tokens)
  | [] => Ascends.nil
  | token :: rest => (token.ascends config).cons (Token.ascendsAll config rest)
      (token.carries config) (Token.carriesAll config rest)

theorem Expression.ascends (config : RenderConfig) : ∀ e : Expression Assembled,
    Ascends e.InOrder (e.template config).slots e.encounters
  | .text content kind suffix => by
      rw [Expression.template, Template.slots_attach]
      exact Ascends.nil
  | .value v suffix => by
      rw [Expression.template, Template.slots_attach]
      exact Ascends.ofValue v
  | .list elements suffix => by
      rw [Expression.template, Template.slots_attach, Template.slots_parenthesize,
        Template.slots_intercalate]
      exact Expression.ascendsAll config elements
  | .array elements suffix => by
      rw [Expression.template, Template.slots_attach, Template.slots_array]
      exact Expression.ascendsAll config elements
  | .call name arguments suffix => by
      rw [Expression.template, Template.slots_attach,
        Template.slots_call name (Expression.length_templates config arguments)]
      exact Expression.ascendsAll config arguments
  | .nested statement suffix => by
      rw [Expression.template, Template.slots_attach, Template.slots_parenthesize]
      exact statement.ascends config

theorem Expression.ascendsAll (config : RenderConfig) : ∀ es : List (Expression Assembled),
    Ascends (Expression.InOrderAll es)
      ((Expression.templates config es).flatMap Template.slots) (Expression.encountersAll es)
  | [] => Ascends.nil
  | e :: rest => (e.ascends config).cons (Expression.ascendsAll config rest)
      (e.carries config) (Expression.carriesAll config rest)

end

/-! ## Rendering -/

/-- Whenever a node is rendered with placeholders, its parameters are appended to those
that the formatter holds, and the text has one slot for each of them. From left to right
they are the appended parameters in their order, so that the first placeholder is that of
the first of them, just if the node is in order: no token of a node that meets parameters
is written in front of leaves that do. -/
theorem placeholders_in_order_iff (n : Node Assembled) (f : Formatter) (text : String)
    (hmode : f.style.mode = .prepared) (h : (f.renderNode n).1 = .ok text) :
    ∃ appended, (f.renderNode n).2.params = f.params ++ appended
      ∧ text = (n.template f.style.config).fill (fun index _ =>
          f.style.config.placeholderStyle.placeholder (f.params.length + index))
      ∧ (n.template f.style.config).slots.Perm (appended.zipIdx 1)
      ∧ ((n.template f.style.config).slots = appended.zipIdx 1 ↔ n.InOrder) := by
  obtain ⟨⟨mode, config⟩, collected⟩ := f
  obtain rfl : mode = .prepared := hmode
  obtain ⟨hresult, hparams⟩ := Formatter.renderNode_spec ⟨⟨.prepared, config⟩, collected⟩ n
  rw [hresult] at h
  obtain ⟨hfail, rfl⟩ := Encounter.outcome_eq_ok.mp h
  have hcarries := n.carries config
  refine ⟨Encounter.parameters n.encounters, hparams, rfl, (hcarries hfail).1, ?_⟩
  rw [← hcarries.ascending_iff hfail]
  exact n.ascends config hfail

/-- A list of a value as the token of a node, with one leaf in front or behind. -/
def Node.listBeside (position : Nat) : Node Assembled :=
  ⟨.withToken (.expression (.list [.value (.scalar (.int32 1))])) position,
    [.expression (.value (.scalar (.int32 2)))], [], defaultDelimiter⟩

theorem placeholders_in_order_iff_leafInFront :
    ((Formatter.new .prepared).renderNode (.listBeside 1)).1 = .ok "? (?)"
      ∧ ∃ appended, ((Formatter.new .prepared).renderNode (.listBeside 1)).2.params = [] ++ appended
        ∧ ((Node.listBeside 1).template {}).slots = appended.zipIdx 1 := by
  have htext : ((Formatter.new .prepared).renderNode (.listBeside 1)).1 = .ok "? (?)" := by
    rfl
  obtain ⟨appended, hparams, -, -, horder⟩ :=
    placeholders_in_order_iff (.listBeside 1) (.new .prepared) _ rfl htext
  have hinOrder : (Node.listBeside 1).InOrder := by
    simp [Node.listBeside, Metadata.withToken, Node.InOrder, Token.encountersAll,
      Token.InOrderAll, Token.InOrderOption, Token.InOrder, Expression.InOrder,
      Expression.InOrderAll, Node.InOrderAll]
  exact ⟨htext, appended, hparams, horder.mpr hinOrder⟩

/-- With the leaf behind the token, the first placeholder is that of the list, but the
first parameter is the value of the leaf. -/
theorem token_in_front_of_leaf_out_of_order :
    let first : Value := .scalar (.int32 1)
    let second : Value := .scalar (.int32 2)
    let (result, f) := (Formatter.new .prepared).renderNode (.listBeside 0)
    result = .ok "(?) ?"
      ∧ ((Node.listBeside 0).template {}).slots = [(first, 2), (second, 1)]
      ∧ f.params = [second, first]
      ∧ ((Node.listBeside 0).template {}).slots ≠ f.params.zipIdx 1 := by
  refine ⟨rfl, rfl, rfl, fun h => ?_⟩
  cases congrArg (List.map Prod.snd) h

end SqlBuilder
