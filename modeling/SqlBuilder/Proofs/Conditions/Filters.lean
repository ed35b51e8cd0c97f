import SqlBuilder.Proofs.Calls.Basic
import SqlBuilder.Proofs.Conditions.Clauses

/-!
# Repeated filters are a conjunction

`conjoin` groups what is there already if anything is attached to it, and leaves
it to the rule for attached chains to group what comes in. So the value of both
is the conjunction of their values (`conjoin_eval`), and of any number of filters
likewise (`conjoinAll_spec`), in the clause that is rendered too
(`repeated_filters_conjoin`).
-/

namespace SqlBuilder

/-! ## The value of conjoined chains -/

/-- The conjunction of some values. -/
def Truth.all : List Truth → Truth
  | [] => .yes
  | v :: rest => v.and (Truth.all rest)

theorem Truth.and_yes (v : Truth) : v.and .yes = v := by
  cases v <;> rfl

section Conjoin

variable {σ : Type}

theorem Conditions.eq_of_not_hasNested {c : Conditions σ} (h : ¬c.hasNested = true) :
    c = .ofPredicate c.predicate := by
  obtain ⟨predicate, attached⟩ := c
  cases attached with
  | nil => rfl
  | cons a rest => exact absurd rfl h

theorem conjoin_some (c d : Conditions σ) :
    conjoin (some c) d = if c.hasNested then c.grouped.and d else c.and d := rfl

theorem conjoin_eval (truth : Predicate σ → Truth) (c d : Conditions σ) :
    (conjoin (some c) d).eval truth = (c.eval truth).and (d.eval truth) := by
  rw [conjoin_some]
  by_cases h : c.hasNested = true
  · rw [if_pos h]
    rfl
  · rw [if_neg h, Conditions.eq_of_not_hasNested h]
    rfl

theorem Conditions.lexemes_and (c d : Conditions σ) :
    (c.and d).lexemes = c.lexemes ++ .and :: Lexeme.unit d.hasNested d.lexemes := by
  rw [lexemes_eq c, lexemes_eq, Conditions.and, attach, Attached.lexemes_append,
    ← List.append_assoc, Attached.lexemes, Attached.lexemes, List.append_nil]
  rfl

theorem Conditions.lexemes_grouped (c : Conditions σ) :
    c.grouped.lexemes = Lexeme.parenthesize c.lexemes := by
  rw [lexemes_eq]
  exact List.append_nil _

theorem conjoin_atoms {c d : Conditions σ} {p : Predicate σ}
    (h : .atom p ∈ (conjoin (some c) d).lexemes) : .atom p ∈ c.lexemes ∨ .atom p ∈ d.lexemes := by
  rw [conjoin_some] at h
  by_cases hnested : c.hasNested = true
  · rw [if_pos hnested, Conditions.lexemes_and, Conditions.lexemes_grouped] at h
    simpa using h
  · rw [if_neg hnested, Conditions.lexemes_and] at h
    simpa using h

theorem conjoinAll_spec (given : List (Conditions σ)) (c : Conditions σ) :
    ∃ chain, conjoinAll (some c) given = some chain
      ∧ (∀ truth, chain.eval truth
          = (c.eval truth).and (Truth.all (given.map (·.eval truth))))
      ∧ (∀ p, .atom p ∈ chain.lexemes → ∃ d ∈ c :: given, .atom p ∈ d.lexemes)
      ∧ (given = [] → chain = c) := by
  induction given generalizing c with
  | nil =>
      refine ⟨c, rfl, fun truth => (Truth.and_yes _).symm, fun p hp => ?_, fun _ => rfl⟩
      exact ⟨c, List.mem_singleton_self c, hp⟩
  | cons d rest ih =>
      obtain ⟨chain, hchain, hvalue, hatoms, -⟩ := ih (conjoin (some c) d)
      refine ⟨chain, hchain, fun truth => ?_, fun p hp => ?_, nofun⟩
      · rw [hvalue, conjoin_eval, Truth.and_assoc]
        rfl
      · obtain ⟨e, he, hp'⟩ := hatoms p hp
        rcases List.mem_cons.mp he with rfl | he
        · rcases conjoin_atoms hp' with h | h
          · exact ⟨c, List.mem_cons_self .., h⟩
          · exact ⟨d, List.mem_cons_of_mem _ (List.mem_cons_self ..), h⟩
        · exact ⟨e, List.mem_cons_of_mem _ (List.mem_cons_of_mem _ he), hp'⟩

end Conjoin

/-! ## The clause of all filters -/

/-- There are conditions, and every atom in them renders to something. -/
structure Shown (f : Formatter) (given : List (Conditions Assembled)) : Prop where
  some_given : given ≠ []
  atoms : ∀ c ∈ given, ∀ p, .atom p ∈ c.lexemes → p.Shown f

/-- The statement has one clause of the keyword, which is read as the conjunction
of what was given. A single chain stands there unchanged. -/
def Conjoins {α : Type} [Assemble α Assembled] (f : Formatter) (a : α) (keyword : String)
    (given : List (Conditions Assembled)) : Prop :=
  ∃ chain, HasClause f a keyword chain
    ∧ Means.Exactly chain.lexemes (fun truth => Truth.all (given.map (·.eval truth)))
    ∧ ∀ c, given = [c] → chain = c

theorem Conjoins.of_hasClause {α : Type} [Assemble α Assembled] {f : Formatter} {a : α}
    {keyword : String} {given : List (Conditions Assembled)} (hshown : Shown f given)
    (h : ∀ chain, conjoinAll none given = some chain →
      (∀ p, .atom p ∈ chain.lexemes → p.Shown f) → HasClause f a keyword chain) :
    Conjoins f a keyword given := by
  obtain ⟨hsome, hatoms⟩ := hshown
  cases given with
  | nil => exact absurd rfl hsome
  | cons c rest =>
      obtain ⟨chain, hchain, hvalue, hfrom, hsingle⟩ := conjoinAll_spec rest c
      obtain ⟨hmeans, -⟩ := chain.means
      refine ⟨chain, h chain hchain fun p hp => ?_, ?_, ?_⟩
      · obtain ⟨d, hd, hp'⟩ := hfrom p hp
        exact hatoms d hd p hp'
      · exact (hmeans.congr hvalue).exactly
      · rintro d hd
        obtain ⟨rfl, rfl⟩ := List.cons.inj hd
        exact hsingle rfl

/-- Filters, however often they are called and whatever is called between them,
leave a clause that is read as the conjunction of all of them. -/
theorem repeated_filters_conjoin (f : Formatter) :
    (∀ calls : List (Select.Call Assembled),
      Shown f (calls.filterMap Select.Call.filtered) →
        Conjoins f (Select.build calls) Keyword.where_
          (calls.filterMap Select.Call.filtered))
    ∧ (∀ calls : List (Select.Call Assembled),
      Shown f (calls.filterMap Select.Call.groupFiltered) →
        Conjoins f (Select.build calls) Keyword.having
          (calls.filterMap Select.Call.groupFiltered))
    ∧ (∀ table (calls : List (Update.Call Assembled)),
      Shown f (calls.filterMap Update.Call.filtered) →
        Conjoins f (Update.build table calls) Keyword.where_
          (calls.filterMap Update.Call.filtered))
    ∧ ∀ table (calls : List (Delete.Call Assembled)),
      Shown f (calls.filterMap Delete.Call.filtered) →
        Conjoins f (Delete.build table calls) Keyword.where_
          (calls.filterMap Delete.Call.filtered) := by
  refine ⟨?_, ?_, ?_, ?_⟩
  · intro calls hshown
    refine Conjoins.of_hasClause hshown fun chain hchain hatoms => ?_
    exact Select.hasWhere ((Select.restriction_foldl calls {}).trans hchain) hatoms
  · intro calls hshown
    refine Conjoins.of_hasClause hshown fun chain hchain hatoms => ?_
    exact Select.hasHaving ((Select.groupRestriction_foldl calls {}).trans hchain) hatoms
  · intro table calls hshown
    refine Conjoins.of_hasClause hshown fun chain hchain hatoms => ?_
    exact Update.hasWhere ((Update.restriction_foldl calls (.ofTable table)).trans hchain) hatoms
  · intro table calls hshown
    refine Conjoins.of_hasClause hshown fun chain hchain hatoms => ?_
    exact Delete.hasWhere ((Delete.restriction_foldl calls (.fromTable table)).trans hchain)
      hatoms

/-- `a = 1 OR b = 2`. -/
def Conditions.alternatives : Conditions Assembled :=
  .or (.compare (.column "a") "=" (.raw "1")) (.compare (.column "b") "=" (.raw "2"))

/-- `c = 3`. -/
def Conditions.single : Conditions Assembled := .compare (.column "c") "=" (.raw "3")

theorem repeated_filters_conjoin_alternatives :
    let f := Formatter.new .prepared .postgres
    let a := Conditions.alternatives
    let b := Conditions.single
    Shown f [a, b]
      ∧ Conjoins f (Select.build [.filter a, .limit (.raw "1"), .filter b]) Keyword.where_ [a, b]
      ∧ Conjoins f (Select.build [.having a, .filter b, .having b]) Keyword.having [a, b]
      ∧ Conjoins f
          (Update.build (.column "t") [.filter a, .set (.column "a") (.raw "2"), .filter b])
          Keyword.where_ [a, b]
      ∧ Conjoins f (Delete.build (.column "t") [.filter a, .filter b, .returning [.raw "*"]])
          Keyword.where_ [a, b] := by
  intro f a b
  have hlexemes : a.lexemes = [.atom (.compare (.column "a") "=" (.raw "1")), .or,
      .atom (.compare (.column "b") "=" (.raw "2"))] := rfl
  have hlexemes' : b.lexemes = [.atom (.compare (.column "c") "=" (.raw "3"))] := rfl
  have hshown : Shown f [a, b] := by
    refine ⟨nofun, List.forall_mem_cons.mpr ⟨?_, List.forall_mem_singleton.mpr ?_⟩⟩
    · intro p hp
      simp only [hlexemes, List.mem_cons, Lexeme.atom.injEq, reduceCtorEq, false_or,
        List.not_mem_nil, or_false] at hp
      rcases hp with rfl | rfl
      · exact ⟨_, rfl, by decide⟩
      · exact ⟨_, rfl, by decide⟩
    · intro p hp
      simp only [hlexemes', List.mem_singleton, Lexeme.atom.injEq] at hp
      obtain rfl := hp
      exact ⟨_, rfl, by decide⟩
  obtain ⟨hwhere, hhaving, hupdate, hdelete⟩ := repeated_filters_conjoin f
  exact ⟨hshown, hwhere _ hshown, hhaving _ hshown, hupdate _ _ hshown, hdelete _ _ hshown⟩

example :
    (render (Delete.build (.column "t")
      [.filter .alternatives, .filter .single])).value.toOption
        = some "DELETE FROM t WHERE (a = 1 OR b = 2) AND c = 3" := by decide

end SqlBuilder
