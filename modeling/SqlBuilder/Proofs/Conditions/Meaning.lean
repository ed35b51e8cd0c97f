import SqlBuilder.Condition
import SqlBuilder.Proofs.Logic.Grammar

/-!
# What a condition chain means

`Conditions.eval` takes a chain as it was built: every attached chain and every
group is one unit. `Conditions.lexemes` writes the chain down, with parentheses
in two places only: around a group, and around an attached chain that has
attachments of its own. Read by the grammar, the lexemes have the value of the
chain (`Conditions.reads`).
-/

namespace SqlBuilder

variable {σ : Type}

/-! ## The value of a chain -/

mutual

def Conditions.eval (truth : Predicate σ → Truth) : Conditions σ → Truth
  | ⟨predicate, attached⟩ => Attached.eval truth (predicate.eval truth) attached

def Predicate.eval (truth : Predicate σ → Truth) : Predicate σ → Truth
  | .group conditions => conditions.eval truth
  | p => truth p

/-- The value of a unit with what is attached to it: an AND adds to the unit,
an OR ends it. -/
def Attached.eval (truth : Predicate σ → Truth) (unit : Truth) : List (Attached σ) → Truth
  | [] => unit
  | ⟨.and, conditions⟩ :: rest => Attached.eval truth (unit.and (conditions.eval truth)) rest
  | ⟨.andNot, conditions⟩ :: rest =>
      Attached.eval truth (unit.and (conditions.eval truth).not) rest
  | ⟨.or, conditions⟩ :: rest => unit.or (Attached.eval truth (conditions.eval truth) rest)
  | ⟨.orNot, conditions⟩ :: rest =>
      unit.or (Attached.eval truth (conditions.eval truth).not rest)

end

/-! ## The lexemes of a chain -/

def Lexeme.parenthesize {α : Type} (ts : List (Lexeme α)) : List (Lexeme α) :=
  .opening :: (ts ++ [.closing])

/-- In parentheses or not. -/
def Lexeme.unit {α : Type} (wrapped : Bool) (ts : List (Lexeme α)) : List (Lexeme α) :=
  if wrapped then parenthesize ts else ts

@[simp] theorem Lexeme.atom_mem_parenthesize {α : Type} {a : α} {ts : List (Lexeme α)} :
    .atom a ∈ parenthesize ts ↔ .atom a ∈ ts := by
  simp [parenthesize]

@[simp] theorem Lexeme.atom_mem_unit {α : Type} {a : α} {ts : List (Lexeme α)}
    {wrapped : Bool} : .atom a ∈ unit wrapped ts ↔ .atom a ∈ ts := by
  cases wrapped <;> simp [unit]

def Connector.lexemes {α : Type} : Connector → List (Lexeme α)
  | .and => [.and]
  | .andNot => [.and, .not]
  | .or => [.or]
  | .orNot => [.or, .not]

mutual

def Conditions.lexemes : Conditions σ → List (Lexeme (Predicate σ))
  | ⟨predicate, attached⟩ => predicate.lexemes ++ Attached.lexemes attached

def Predicate.lexemes : Predicate σ → List (Lexeme (Predicate σ))
  | .group conditions => Lexeme.parenthesize conditions.lexemes
  | p => [.atom p]

def Attached.lexemes : List (Attached σ) → List (Lexeme (Predicate σ))
  | [] => []
  | ⟨connector, conditions⟩ :: rest =>
      connector.lexemes
        ++ Lexeme.unit conditions.hasNested conditions.lexemes
        ++ Attached.lexemes rest

end

theorem Conditions.lexemes_eq (c : Conditions σ) :
    c.lexemes = c.predicate.lexemes ++ Attached.lexemes c.attached := by
  obtain ⟨predicate, attached⟩ := c
  rfl

theorem Attached.lexemes_append (as bs : List (Attached σ)) :
    Attached.lexemes (as ++ bs) = Attached.lexemes as ++ Attached.lexemes bs := by
  induction as with
  | nil => rfl
  | cons a rest ih =>
      obtain ⟨connector, conditions⟩ := a
      rw [List.cons_append, lexemes, lexemes, ih, ← List.append_assoc]

/-! ## The reading of the lexemes -/

/-- The lexemes can be read at a level of the grammar, and what is read always
has the value. -/
def Means (l : Level) (ts : List (Lexeme (Predicate σ)))
    (value : (Predicate σ → Truth) → Truth) : Prop :=
  ∃ f, Reads l ts f ∧ ∀ truth, f.eval truth = value truth

namespace Means

variable {l : Level} {ts us : List (Lexeme (Predicate σ))} {u v w : (Predicate σ → Truth) → Truth}

theorem atom (p : Predicate σ) : Means .factor [.atom p] (· p) :=
  ⟨.atom p, .atom p, fun _ => rfl⟩

theorem parenthesized (h : Means .disjunction ts v) :
    Means .factor (Lexeme.parenthesize ts) v := by
  obtain ⟨f, hf, hv⟩ := h
  exact ⟨f, hf.parenthesized, hv⟩

theorem not (h : Means .factor ts v) :
    Means .factor (.not :: ts) (fun truth => (v truth).not) := by
  obtain ⟨f, hf, hv⟩ := h
  exact ⟨.not f, hf.not, fun truth => congrArg Truth.not (hv truth)⟩

theorem factor (h : Means .factor ts v) : Means .conjunction ts v := by
  obtain ⟨f, hf, hv⟩ := h
  exact ⟨f, hf.factor, hv⟩

theorem conjunction (h : Means .conjunction ts v) : Means .disjunction ts v := by
  obtain ⟨f, hf, hv⟩ := h
  exact ⟨f, hf.conjunction, hv⟩

theorem and (hu : Means .conjunction ts u) (hv : Means .factor us v) :
    Means .conjunction (ts ++ .and :: us) (fun truth => (u truth).and (v truth)) := by
  obtain ⟨f, hf, hfu⟩ := hu
  obtain ⟨g, hg, hgv⟩ := hv
  exact ⟨.and f g, hf.and hg, fun truth => congrArg₂ Truth.and (hfu truth) (hgv truth)⟩

theorem or (hu : Means .disjunction ts u) (hv : Means .conjunction us v) :
    Means .disjunction (ts ++ .or :: us) (fun truth => (u truth).or (v truth)) := by
  obtain ⟨f, hf, hfu⟩ := hu
  obtain ⟨g, hg, hgv⟩ := hv
  exact ⟨.or f g, hf.or hg, fun truth => congrArg₂ Truth.or (hfu truth) (hgv truth)⟩

theorem congr (h : Means l ts v) (hvw : ∀ truth, v truth = w truth) : Means l ts w :=
  (funext hvw : v = w) ▸ h

end Means

/-- What has been read of a chain: a conjunction, perhaps behind alternatives
that an OR has ended. The whole has the value `ended v` if the conjunction ends
up with the value `v`. -/
def SoFar (ts : List (Lexeme (Predicate σ))) (ended : (Predicate σ → Truth) → Truth → Truth)
    (u : (Predicate σ → Truth) → Truth) : Prop :=
  (Means .conjunction ts u ∧ ∀ truth v, ended truth v = v)
    ∨ ∃ ds us d, ts = ds ++ .or :: us ∧ Means .disjunction ds d ∧ Means .conjunction us u
        ∧ ∀ truth v, ended truth v = (d truth).or v

namespace SoFar

variable {ts us : List (Lexeme (Predicate σ))} {u v : (Predicate σ → Truth) → Truth}
  {ended : (Predicate σ → Truth) → Truth → Truth}

theorem first (h : Means .conjunction ts u) : SoFar ts (fun _ v => v) u :=
  Or.inl ⟨h, fun _ _ => rfl⟩

theorem and (h : SoFar ts ended u) (hv : Means .factor us v) :
    SoFar (ts ++ .and :: us) ended (fun truth => (u truth).and (v truth)) := by
  rcases h with ⟨hu, hended⟩ | ⟨ds, us', d, rfl, hd, hu, hended⟩
  · exact Or.inl ⟨hu.and hv, hended⟩
  · exact Or.inr ⟨ds, _, d, List.append_assoc .., hd, hu.and hv, hended⟩

theorem or (h : SoFar ts ended u) (hv : Means .conjunction us v) :
    SoFar (ts ++ .or :: us) (fun truth w => ended truth ((u truth).or w)) v := by
  rcases h with ⟨hu, hended⟩ | ⟨ds, us', d, rfl, hd, hu, hended⟩
  · exact Or.inr ⟨ts, us, u, rfl, hu.conjunction, hv, fun truth w => hended truth _⟩
  · refine Or.inr ⟨_, us, _, rfl, hd.or hu, hv, fun truth w => ?_⟩
    exact (hended truth _).trans (Truth.or_assoc ..).symm

theorem finish (h : SoFar ts ended u) :
    Means .disjunction ts (fun truth => ended truth (u truth)) := by
  rcases h with ⟨hu, hended⟩ | ⟨ds, us, d, rfl, hd, hu, hended⟩
  · exact hu.conjunction.congr fun truth => (hended truth _).symm
  · exact (hd.or hu).congr fun truth => (hended truth _).symm

end SoFar

mutual

/-- A chain means its value, and as a unit it is a factor. -/
theorem Conditions.means : ∀ c : Conditions σ,
    Means .disjunction c.lexemes (c.eval ·)
      ∧ Means .factor (Lexeme.unit c.hasNested c.lexemes) (c.eval ·)
  | ⟨predicate, attached⟩ => by
      have hpredicate := predicate.means
      have hchain := Attached.means attached (SoFar.first hpredicate.factor)
      refine ⟨hchain, ?_⟩
      cases attached with
      | nil =>
          rw [Conditions.lexemes, Attached.lexemes, List.append_nil]
          exact hpredicate
      | cons a rest => exact hchain.parenthesized

theorem Predicate.means : ∀ p : Predicate σ, Means .factor p.lexemes (p.eval ·)
  | .group conditions => by
      obtain ⟨hchain, -⟩ := conditions.means
      exact hchain.parenthesized
  | .compare _ _ _ | .trailing _ _ | .between _ _ _ _ | .existence _ _ | .membership _ _ _
  | .quantified _ _ _ _ => Means.atom _

/-- Attached chains go on with what has been read. -/
theorem Attached.means : ∀ (as : List (Attached σ)) {ts : List (Lexeme (Predicate σ))}
    {ended : (Predicate σ → Truth) → Truth → Truth} {u : (Predicate σ → Truth) → Truth},
    SoFar ts ended u →
      Means .disjunction (ts ++ Attached.lexemes as)
        (fun truth => ended truth (Attached.eval truth (u truth) as))
  | [], ts, ended, u, h => by
      rw [Attached.lexemes, List.append_nil]
      exact h.finish
  | ⟨connector, conditions⟩ :: rest, ts, ended, u, h => by
      obtain ⟨-, hunit⟩ := conditions.means
      rw [Attached.lexemes, ← List.append_assoc, ← List.append_assoc, List.append_assoc ts]
      cases connector with
      | and => exact Attached.means rest (h.and hunit)
      | andNot => exact Attached.means rest (h.and hunit.not)
      | or => exact Attached.means rest (h.or hunit.factor)
      | orNot => exact Attached.means rest (h.or hunit.not.factor)

end

end SqlBuilder
