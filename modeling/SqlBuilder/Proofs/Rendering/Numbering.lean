import SqlBuilder.Proofs.Rendering.Denotation

/-!
# The numbers of the slots

A template carries a walk if its slots are the parameters of the walk, each
under its own number. Every template of a tree carries the tree's walk
(`Node.carries`). The slots stand in the order of the walk too, unless a node
has a token that meets something: such a token is met behind all leaves, but
may be written in front of some.
-/

namespace SqlBuilder

namespace Encounter

/-- The parameters of a walk under their numbers, counted from one. -/
def numbered (xs : List Encounter) : List (Value × Nat) := (parameters xs).zipIdx 1

theorem numbered_append {xs : List Encounter} (h : failure? xs = none)
    (ys : List Encounter) :
    numbered (xs ++ ys) = numbered xs ++ (numbered ys).map (Prod.map id (count xs + ·)) := by
  have hswap : (fun index => count xs + index) = (· + count xs) := by
    funext index
    exact Nat.add_comm _ _
  rw [numbered, parameters_append h, List.zipIdx_append, hswap]
  rw [show numbered ys = (parameters ys).zipIdx 1 from rfl, List.map_snd_add_zipIdx_eq_zipIdx,
    Nat.add_comm]
  rfl

end Encounter

/-! ## Orderly trees -/

mutual

/-- No node has a token that meets anything, in subqueries neither. -/
def Assembled.Orderly : Assembled → Prop
  | .complete _ root => root.Orderly
  | .failed _ _ => True

def Node.Orderly : Node Assembled → Prop
  | ⟨⟨token, _, _, _⟩, leaves, children, _⟩ =>
      Token.encountersOption token = [] ∧ Token.OrderlyAll leaves ∧ Node.OrderlyAll children

def Node.OrderlyAll : List (Node Assembled) → Prop
  | [] => True
  | node :: rest => node.Orderly ∧ Node.OrderlyAll rest

def Token.Orderly : Token Assembled → Prop
  | .keyword _ => True
  | .operator _ => True
  | .expression e => e.Orderly

def Token.OrderlyAll : List (Token Assembled) → Prop
  | [] => True
  | token :: rest => token.Orderly ∧ Token.OrderlyAll rest

def Expression.Orderly : Expression Assembled → Prop
  | .text _ _ _ => True
  | .value _ _ => True
  | .list elements _ => Expression.OrderlyAll elements
  | .array elements _ => Expression.OrderlyAll elements
  | .call _ arguments _ => Expression.OrderlyAll arguments
  | .nested statement _ => statement.Orderly

def Expression.OrderlyAll : List (Expression Assembled) → Prop
  | [] => True
  | e :: rest => e.Orderly ∧ Expression.OrderlyAll rest

end

/-! ## Slots and walks -/

/-- The slots are the parameters of the walk: in some order, and if the tree
is orderly, in that of the walk. -/
def Carries (orderly : Prop) (slots : List (Value × Nat)) (xs : List Encounter) : Prop :=
  Encounter.failure? xs = none →
    slots.Perm (Encounter.numbered xs) ∧ (orderly → slots = Encounter.numbered xs)

namespace Carries

variable {p q r : Prop}

theorem nil : Carries p [] [] := fun _ => ⟨List.Perm.nil, fun _ => rfl⟩

theorem mono {slots : List (Value × Nat)} {xs : List Encounter} (h : Carries p slots xs)
    (hqp : q → p) : Carries q slots xs := by
  intro hxs
  obtain ⟨hperm, heq⟩ := h hxs
  exact ⟨hperm, fun hq => heq (hqp hq)⟩

theorem append {a b : List (Value × Nat)} {xs ys : List Encounter} (ha : Carries p a xs)
    (hb : Carries q b ys) :
    Carries (p ∧ q) (a ++ b.map (Prod.map id (Encounter.count xs + ·))) (xs ++ ys) := by
  intro h
  obtain ⟨hxs, hys⟩ := Encounter.failure?_append_eq_none.mp h
  obtain ⟨hpermA, heqA⟩ := ha hxs
  obtain ⟨hpermB, heqB⟩ := hb hys
  rw [Encounter.numbered_append hxs]
  refine ⟨hpermA.append (hpermB.map _), ?_⟩
  rintro ⟨hp, hq⟩
  rw [heqA hp, heqB hq]

theorem cons {t : Template} {ts : List Template} {xs ys : List Encounter}
    (ht : Carries p t.slots xs) (hts : Carries q (ts.flatMap Template.slots) ys) :
    Carries (p ∧ q)
      ((t :: ts.map (Template.shift (Encounter.count xs))).flatMap Template.slots)
      (xs ++ ys) := by
  rw [List.flatMap_cons, Template.flatMap_slots_shift]
  exact ht.append hts

theorem ofValue (v : Value) : Carries p (Template.ofValue v).slots (Encounter.ofValue v) := by
  unfold Template.ofValue Encounter.ofValue
  split
  · exact fun _ => ⟨List.Perm.refl _, fun _ => rfl⟩
  · exact nil

/-- A token in the middle of the leaves is numbered behind all of them: its
slots move to the end, if it has any. -/
theorem layout (m : Metadata Assembled) (delimiter : String) {leaves children : List Template}
    {token : Option Template} {xs ys zs : List Encounter}
    (hleaves : Carries p (leaves.flatMap Template.slots) xs)
    (htoken : Carries q (token.toList.flatMap Template.slots) ys)
    (hchildren : Carries r (children.flatMap Template.slots) zs) :
    Carries (ys = [] ∧ p ∧ r)
      (Template.layout m delimiter leaves (token.map (Template.shift (Encounter.count xs)))
        (children.map (Template.shift (Encounter.count xs + Encounter.count ys)))).slots
      (xs ++ (ys ++ zs)) := by
  have htoken' : (token.map (Template.shift (Encounter.count xs))).toList.flatMap Template.slots
      = (token.toList.flatMap Template.slots).map (Prod.map id (Encounter.count xs + ·)) := by
    cases token <;> simp [Template.slots_shift]
  intro h
  obtain ⟨hperm, -⟩ := hleaves.append (htoken.append hchildren) h
  rw [Template.slots_layout, htoken']
  refine ⟨?_, ?_⟩
  · refine List.Perm.trans ?_ hperm
    rw [← Template.map_shift_shift, Template.flatMap_slots_shift, Template.flatMap_slots_shift,
      List.map_append]
    refine List.Perm.trans ?_ (List.Perm.of_eq (List.append_assoc ..))
    refine List.Perm.append_right _ ?_
    conv => rhs; rw [← List.take_append_drop m.position leaves, List.flatMap_append]
    rw [List.append_assoc, List.append_assoc]
    exact List.Perm.append_left _ List.perm_append_comm
  · rintro ⟨rfl, hp, hr⟩
    have hnone : token.toList.flatMap Template.slots = [] := (htoken rfl).1.eq_nil
    obtain ⟨-, heq⟩ := hleaves.append hchildren h
    rw [hnone, List.map_nil, List.append_nil, ← List.flatMap_append, List.take_append_drop,
      Template.flatMap_slots_shift]
    exact heq ⟨hp, hr⟩

end Carries

theorem Expression.length_templates (config : RenderConfig) (es : List (Expression Assembled)) :
    (Expression.templates config es).length = es.length := by
  induction es with
  | nil => rfl
  | cons e rest ih => simp [Expression.templates, ih]

mutual

theorem Assembled.carries (config : RenderConfig) : ∀ a : Assembled,
    Carries a.Orderly (a.template config).slots a.encounters
  | .complete _ root => root.carries config
  | .failed _ _ => fun h => by cases h

theorem Node.carries (config : RenderConfig) : ∀ n : Node Assembled,
    Carries n.Orderly (n.template config).slots n.encounters
  | ⟨⟨token, position, parentheses, joinNodes⟩, leaves, children, delimiter⟩ => by
      rw [Node.template, Node.encounters, List.append_assoc]
      exact Carries.layout _ delimiter (Token.carriesAll config leaves)
        (Token.carriesOption config token) (Node.carriesAll config children)

theorem Node.carriesAll (config : RenderConfig) : ∀ nodes : List (Node Assembled),
    Carries (Node.OrderlyAll nodes) ((Node.templates config nodes).flatMap Template.slots)
      (Node.encountersAll nodes)
  | [] => Carries.nil
  | node :: rest => (node.carries config).cons (Node.carriesAll config rest)

theorem Token.carriesOption (config : RenderConfig) : ∀ token : Option (Token Assembled),
    Carries False ((Token.templateOption config token).toList.flatMap Template.slots)
      (Token.encountersOption token)
  | none => Carries.nil
  | some token => by
      rw [Token.templateOption, Token.encountersOption, Option.toList_some,
        List.flatMap_singleton]
      exact (token.carries config).mono False.elim

theorem Token.carries (config : RenderConfig) : ∀ token : Token Assembled,
    Carries token.Orderly (token.template config).slots token.encounters
  | .keyword _ => Carries.nil
  | .operator _ => Carries.nil
  | .expression e => e.carries config

theorem Token.carriesAll (config : RenderConfig) : ∀ tokens : List (Token Assembled),
    Carries (Token.OrderlyAll tokens) ((Token.templates config tokens).flatMap Template.slots)
      (Token.encountersAll tokens)
  | [] => Carries.nil
  | token :: rest => (token.carries config).cons (Token.carriesAll config rest)

theorem Expression.carries (config : RenderConfig) : ∀ e : Expression Assembled,
    Carries e.Orderly (e.template config).slots e.encounters
  | .text content kind suffix => by
      rw [Expression.template, Template.slots_attach]
      exact Carries.nil
  | .value v suffix => by
      rw [Expression.template, Template.slots_attach]
      exact Carries.ofValue v
  | .list elements suffix => by
      rw [Expression.template, Template.slots_attach, Template.slots_parenthesize,
        Template.slots_intercalate]
      exact Expression.carriesAll config elements
  | .array elements suffix => by
      rw [Expression.template, Template.slots_attach, Template.slots_array]
      exact Expression.carriesAll config elements
  | .call name arguments suffix => by
      rw [Expression.template, Template.slots_attach,
        Template.slots_call name (Expression.length_templates config arguments)]
      exact Expression.carriesAll config arguments
  | .nested statement suffix => by
      rw [Expression.template, Template.slots_attach, Template.slots_parenthesize]
      exact statement.carries config

theorem Expression.carriesAll (config : RenderConfig) : ∀ es : List (Expression Assembled),
    Carries (Expression.OrderlyAll es)
      ((Expression.templates config es).flatMap Template.slots) (Expression.encountersAll es)
  | [] => Carries.nil
  | e :: rest => (e.carries config).cons (Expression.carriesAll config rest)

end

end SqlBuilder
