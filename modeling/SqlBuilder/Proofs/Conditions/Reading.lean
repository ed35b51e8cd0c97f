import SqlBuilder.Proofs.Conditions.Spelling

/-!
# A chain is read as it was built

A rendered chain spells its lexemes (`Conditions.spells`), and these have one
reading, with the value of the chain (`Conditions.means`). Together: whoever
reads the text by SQL's grammar takes it to mean what was built
(`chain_reads_as_built`).
-/

namespace SqlBuilder

/-- Alone, the predicate renders to something. -/
def Predicate.Shown (f : Formatter) (p : Predicate Assembled) : Prop :=
  ∃ text, (f.renderStatement p).1 = .ok text ∧ text ≠ ""

theorem Predicate.Shown.visible {f : Formatter} {p : Predicate Assembled} (h : p.Shown f) :
    p.Visible f.style := by
  obtain ⟨text, hrender, htext⟩ := h
  obtain ⟨hspec, -⟩ := f.renderStatement_spec p p.forms
  rw [hspec] at hrender
  obtain ⟨hfail, rfl⟩ := Encounter.outcome_eq_ok.mp hrender
  refine ⟨hfail, fun before => ?_⟩
  exact mt (p.node.text_eq_empty_iff f.style f.style rfl _ _).mp htext

/-- The text is made of words, parentheses and the atoms of the lexemes, each
atom as some formatter of the style renders it alone. -/
def Formatter.Writes (f : Formatter) (text : String)
    (ts : List (Lexeme (Predicate Assembled))) : Prop :=
  ∃ written : List (Lexeme (Predicate Assembled × String)),
    text = Lexeme.spell (written.map (Lexeme.map Prod.snd))
      ∧ written.map (Lexeme.map Prod.fst) = ts
      ∧ ∀ p atomText, .atom (p, atomText) ∈ written →
          ∃ g : Formatter, g.style = f.style ∧ (g.renderStatement p).1 = .ok atomText

theorem Spells.writes {f : Formatter} {text : String} {ts : List (Lexeme (Predicate Assembled))}
    (h : Spells f.style text ts) (hatoms : ∀ p, .atom p ∈ ts → p.Visible f.style) :
    f.Writes text ts := by
  obtain ⟨-, written, -, htext, hfst, hwritten⟩ := h
  refine ⟨written, htext, hfst, fun p atomText hmem => ?_⟩
  obtain ⟨before, rfl⟩ := hwritten p atomText hmem
  have hp : .atom p ∈ ts := hfst ▸ List.mem_map_of_mem hmem
  obtain ⟨hfail, -⟩ := hatoms p hp
  exact Formatter.exists_renders p.forms hfail f.style before

/-- The lexemes have one reading, and it has the value. -/
def Means.Exactly {σ : Type} (ts : List (Lexeme (Predicate σ)))
    (value : (Predicate σ → Truth) → Truth) : Prop :=
  ∃ formula, (∀ g, Reads .disjunction ts g ↔ g = formula)
    ∧ ∀ truth, formula.eval truth = value truth

theorem Means.exactly {σ : Type} {ts : List (Lexeme (Predicate σ))}
    {value : (Predicate σ → Truth) → Truth} (h : Means .disjunction ts value) :
    Exactly ts value := by
  obtain ⟨formula, hreads, hvalue⟩ := h
  refine ⟨formula, fun g => ⟨fun hg => hg.unique hreads, ?_⟩, hvalue⟩
  rintro rfl
  exact hreads

/-- A chain whose atoms render to something renders to its lexemes, and these
are read as the chain was built: under every assignment of truth values the one
reading has the value of the chain. The chain as a whole has no parentheses, and
an attached chain without attachments none but those of its own group. -/
theorem chain_reads_as_built (f : Formatter) (c : Conditions Assembled)
    (h : ∀ p, .atom p ∈ c.lexemes → p.Shown f) :
    (∃ text, (f.renderStatement c).1 = .ok text ∧ f.Writes text c.lexemes)
      ∧ Means.Exactly c.lexemes (c.eval ·)
      ∧ c.lexemes = c.predicate.lexemes ++ Attached.lexemes c.attached
      ∧ ∀ connector (d : Conditions Assembled), d.attached = [] →
          Attached.lexemes [⟨connector, d⟩] = connector.lexemes ++ d.predicate.lexemes := by
  have hvisible : ∀ p, .atom p ∈ c.lexemes → p.Visible f.style := fun p hp => (h p hp).visible
  obtain ⟨hfail, hspells⟩ := c.spells false hvisible
  obtain ⟨hmeans, -⟩ := c.means
  refine ⟨⟨_, ?_, (hspells f.params.length).writes hvisible⟩, hmeans.exactly, c.lexemes_eq, ?_⟩
  · obtain ⟨hspec, -⟩ := f.renderStatement_spec c c.forms
    exact hspec.trans (Encounter.outcome_of_none hfail _)
  · rintro connector ⟨predicate, _⟩ rfl
    simp [Attached.lexemes, Lexeme.unit, Conditions.hasNested, Conditions.lexemes]

/-- `a = 1 OR NOT (b IS NULL AND c = 2)`. -/
def Conditions.negatedGroup : Conditions Assembled :=
  let first : Conditions Assembled := .compare (.column "a") "=" (.raw "1")
  let second : Conditions Assembled := .isNull (.column "b")
  first.orNot (second.and (.compare (.column "c") "=" (.raw "2")))

theorem chain_reads_as_built_negatedGroup :
    let f := Formatter.new .prepared .postgres
    let c := Conditions.negatedGroup
    (∀ p, .atom p ∈ c.lexemes → p.Shown f)
      ∧ (∃ text, (f.renderStatement c).1 = .ok text ∧ f.Writes text c.lexemes)
      ∧ Means.Exactly c.lexemes (c.eval ·) := by
  intro f c
  have hatoms : ∀ p, .atom p ∈ c.lexemes → p.Shown f := by
    intro p hp
    have hlexemes : c.lexemes = [.atom (.compare (.column "a") "=" (.raw "1")), .or, .not,
        .opening, .atom (.trailing (.column "b") Keyword.isNull), .and,
        .atom (.compare (.column "c") "=" (.raw "2")), .closing] := rfl
    simp only [hlexemes, List.mem_cons, Lexeme.atom.injEq, reduceCtorEq, false_or,
      List.not_mem_nil, or_false] at hp
    rcases hp with rfl | rfl | rfl
    · exact ⟨_, rfl, by decide⟩
    · exact ⟨_, rfl, by decide⟩
    · exact ⟨_, rfl, by decide⟩
  obtain ⟨hwrites, hmeans, -, -⟩ := chain_reads_as_built f c hatoms
  exact ⟨hatoms, hwrites, hmeans⟩

end SqlBuilder
