import SqlBuilder.Proofs.Assembly.Nodes
import SqlBuilder.Proofs.Conditions.Meaning
import SqlBuilder.Proofs.Rendering.Text

/-!
# How a condition chain is spelled

`spell` writes lexemes down: the words with spaces between them, but none
inside parentheses next to them. The text of a chain is the spelling of its
lexemes, with the text of its own for every atom (`Conditions.spells`); that
the atoms are not empty is what keeps every one of them in the text.
-/

namespace SqlBuilder

/-! ## Spelling -/

namespace Lexeme

def word : Lexeme String → String
  | .atom text => text
  | .and => "AND"
  | .or => "OR"
  | .not => "NOT"
  | .opening => "("
  | .closing => ")"

/-- What stands between two lexemes. -/
def gap : Lexeme String → Lexeme String → String
  | .opening, _ => ""
  | _, .closing => ""
  | _, _ => " "

def spell : List (Lexeme String) → String
  | [] => ""
  | [t] => t.word
  | t :: next :: rest => t.word ++ gap t next ++ spell (next :: rest)

theorem spell_append_cons (u : Lexeme String) (us : List (Lexeme String)) :
    ∀ (ts : List (Lexeme String)) (t : Lexeme String),
      spell (ts ++ [t] ++ u :: us) = spell (ts ++ [t]) ++ gap t u ++ spell (u :: us)
  | [], t => rfl
  | [s], t => by
      show s.word ++ gap s t ++ (t.word ++ gap t u ++ spell (u :: us)) = _
      rw [← String.append_assoc, ← String.append_assoc]
      rfl
  | s :: s' :: ts, t => by
      have ih := spell_append_cons u us (s' :: ts) t
      show s.word ++ gap s s' ++ spell (s' :: ts ++ [t] ++ u :: us) = _
      rw [ih, ← String.append_assoc, ← String.append_assoc]
      rfl

section Phrase

variable {α β : Type} {ts us : List (Lexeme α)}

/-- Lexemes with a space on both sides: the first is no closing parenthesis,
the last is no opening one. -/
def Phrase (ts : List (Lexeme α)) : Prop :=
  (∃ t rest, ts = t :: rest ∧ t ≠ .closing) ∧ ∃ rest t, ts = rest ++ [t] ∧ t ≠ .opening

theorem Phrase.append (hts : Phrase ts) (hus : Phrase us) : Phrase (ts ++ us) := by
  obtain ⟨⟨t, rest, rfl, ht⟩, -⟩ := hts
  obtain ⟨-, rest', t', rfl, ht'⟩ := hus
  exact ⟨⟨t, _, rfl, ht⟩, t :: rest ++ rest', t', (List.append_assoc ..).symm, ht'⟩

theorem Phrase.atom (a : α) : Phrase [Lexeme.atom a] :=
  ⟨⟨_, [], rfl, nofun⟩, [], _, rfl, nofun⟩

theorem Phrase.parenthesize (ts : List (Lexeme α)) : Phrase (parenthesize ts) :=
  ⟨⟨_, _, rfl, nofun⟩, .opening :: ts, _, rfl, nofun⟩

theorem Phrase.connector (c : Connector) : Phrase (c.lexemes : List (Lexeme α)) := by
  cases c with
  | and => exact ⟨⟨_, _, rfl, nofun⟩, [], _, rfl, nofun⟩
  | andNot => exact ⟨⟨_, _, rfl, nofun⟩, [.and], _, rfl, nofun⟩
  | or => exact ⟨⟨_, _, rfl, nofun⟩, [], _, rfl, nofun⟩
  | orNot => exact ⟨⟨_, _, rfl, nofun⟩, [.or], _, rfl, nofun⟩

theorem map_eq_closing (f : α → β) (t : Lexeme α) : t.map f = .closing ↔ t = .closing := by
  cases t <;> simp [Lexeme.map]

theorem map_eq_opening (f : α → β) (t : Lexeme α) : t.map f = .opening ↔ t = .opening := by
  cases t <;> simp [Lexeme.map]

theorem Phrase.map (f : α → β) (hts : Phrase ts) : Phrase (ts.map (Lexeme.map f)) := by
  obtain ⟨⟨t, rest, hfirst, ht⟩, rest', t', hlast, ht'⟩ := hts
  refine ⟨⟨t.map f, rest.map (Lexeme.map f), ?_, mt (map_eq_closing f t).mp ht⟩,
    rest'.map (Lexeme.map f), t'.map f, ?_, mt (map_eq_opening f t').mp ht'⟩
  · rw [hfirst, List.map_cons]
  · rw [hlast, List.map_append, List.map_singleton]

end Phrase

theorem spell_append {ts us : List (Lexeme String)} (hts : Phrase ts) (hus : Phrase us) :
    spell (ts ++ us) = spell ts ++ " " ++ spell us := by
  obtain ⟨-, rest, t, rfl, ht⟩ := hts
  obtain ⟨⟨u, rest', rfl, hu⟩, -⟩ := hus
  rw [spell_append_cons]
  have hgap : gap t u = " " := by
    cases t <;> cases u <;> first | rfl | exact absurd rfl ht | exact absurd rfl hu
  rw [hgap]

theorem spell_parenthesize {ts : List (Lexeme String)} (hts : Phrase ts) :
    spell (parenthesize ts) = SqlBuilder.parenthesize (spell ts) := by
  obtain ⟨⟨u, us, hfirst, -⟩, rest, t, hlast, -⟩ := hts
  have hclosing : spell (ts ++ [.closing]) = spell ts ++ ")" := by
    rw [hlast, spell_append_cons]
    cases t <;> simp [gap, spell, word]
  have hopening : spell (.opening :: (ts ++ [.closing])) = "(" ++ spell (ts ++ [.closing]) := by
    rw [hfirst]
    simp [spell, gap, word]
  rw [parenthesize, hopening, hclosing, SqlBuilder.parenthesize, String.append_assoc]

end Lexeme

/-! ## Texts that spell lexemes -/

open Lexeme (Phrase spell)

/-- The text spells the lexemes, each atom in a text of its own, behind some
number of parameters. -/
structure Spells (style : Style) (text : String) (ts : List (Lexeme (Predicate Assembled))) :
    Prop where
  nonempty : text ≠ ""
  written : ∃ written : List (Lexeme (Predicate Assembled × String)),
    Phrase written
      ∧ text = spell (written.map (Lexeme.map Prod.snd))
      ∧ written.map (Lexeme.map Prod.fst) = ts
      ∧ ∀ p t, .atom (p, t) ∈ written → ∃ before, t = p.node.text style before

namespace Spells

variable {style : Style} {s t : String} {ts us : List (Lexeme (Predicate Assembled))}

theorem atom {p : Predicate Assembled} {before : Nat} (h : p.node.text style before ≠ "") :
    Spells style (p.node.text style before) [.atom p] := by
  refine ⟨h, [.atom (p, p.node.text style before)], Phrase.atom _, rfl, rfl, ?_⟩
  intro p' t hmem
  cases List.mem_singleton.mp hmem
  exact ⟨before, rfl⟩

theorem connector (c : Connector) : Spells style c.keyword c.lexemes := by
  refine ⟨?_, c.lexemes, Phrase.connector c, ?_, ?_, ?_⟩
  · cases c <;> decide
  · cases c <;> decide
  · cases c <;> rfl
  · intro p t hmem
    cases c <;> simp [Connector.lexemes] at hmem

theorem join (hs : Spells style s ts) (ht : Spells style t us) :
    Spells style (s ++ " " ++ t) (ts ++ us) := by
  obtain ⟨-, ws, hphrase, rfl, rfl, hatoms⟩ := hs
  obtain ⟨-, ws', hphrase', rfl, rfl, hatoms'⟩ := ht
  refine ⟨by simp, ws ++ ws', hphrase.append hphrase', ?_, List.map_append, ?_⟩
  · rw [List.map_append, Lexeme.spell_append (hphrase.map _) (hphrase'.map _)]
  · intro p t hmem
    rcases List.mem_append.mp hmem with h | h
    · exact hatoms p t h
    · exact hatoms' p t h

theorem parenthesized (hs : Spells style s ts) :
    Spells style (parenthesize s) (Lexeme.parenthesize ts) := by
  obtain ⟨-, ws, hphrase, rfl, rfl, hatoms⟩ := hs
  have hmap {β : Type} (f : Predicate Assembled × String → β) :
      (Lexeme.parenthesize ws).map (Lexeme.map f)
        = Lexeme.parenthesize (ws.map (Lexeme.map f)) := by
    simp [Lexeme.parenthesize, Lexeme.map]
  refine ⟨by simp [parenthesize], Lexeme.parenthesize ws, Phrase.parenthesize ws, ?_, hmap _, ?_⟩
  · rw [hmap, Lexeme.spell_parenthesize (hphrase.map _)]
  · intro p t hmem
    exact hatoms p t (Lexeme.atom_mem_parenthesize.mp hmem)

theorem unit (hs : Spells style s ts) (wrapped : Bool) :
    Spells style (if wrapped then parenthesize s else s) (Lexeme.unit wrapped ts) := by
  cases wrapped with
  | false => exact hs
  | true => exact hs.parenthesized

end Spells

/-! ## The text of a chain -/

/-- The predicate renders without failure, and to something. -/
def Predicate.Visible (style : Style) (p : Predicate Assembled) : Prop :=
  Encounter.failure? p.node.encounters = none ∧ ∀ before, p.node.text style before ≠ ""

mutual

/-- The node of a chain renders, and spells the chain. -/
theorem Conditions.spells {style : Style} (parentheses : Bool) : ∀ c : Conditions Assembled,
    (∀ p, .atom p ∈ c.lexemes → p.Visible style) →
      Encounter.failure? (c.chainNode parentheses).encounters = none
        ∧ ∀ before, Spells style ((c.chainNode parentheses).text style before)
            (Lexeme.unit parentheses c.lexemes)
  | ⟨predicate, attached⟩, h => by
      rw [Conditions.lexemes] at h
      obtain ⟨hfirst, hspell⟩ := predicate.spells fun p hp => h p (List.mem_append_left _ hp)
      obtain ⟨hrest, hspells⟩ := Attached.spells attached fun p hp =>
        h p (List.mem_append_right _ hp)
      refine ⟨?_, fun before => ?_⟩
      · have hchildren := Node.encounters_around none parentheses
          (predicate.node :: Attached.nodes attached)
        rw [Node.encountersAll] at hchildren
        rw [Conditions.chainNode]
        exact hchildren ▸ Encounter.failure?_append_eq_none.mpr ⟨hfirst, hrest⟩
      · have hpredicate := hspell before
        have hchain := hspells _ hpredicate
          (before + (style.collects predicate.node.encounters).length)
        have htext := Node.text_around style before none parentheses
          (predicate.node :: Attached.nodes attached)
        rw [Node.texts_cons,
          List.filter_cons_of_pos (by simpa using hpredicate.nonempty)] at htext
        rw [Conditions.lexemes]
        exact htext ▸ hchain.unit parentheses

theorem Predicate.spells {style : Style} : ∀ p : Predicate Assembled,
    (∀ q, .atom q ∈ p.lexemes → q.Visible style) →
      Encounter.failure? p.node.encounters = none
        ∧ ∀ before, Spells style (p.node.text style before) p.lexemes
  | .group conditions, h => by
      rw [Predicate.node, Predicate.lexemes]
      exact conditions.spells true fun p hp => h p (Lexeme.atom_mem_parenthesize.mpr hp)
  | .compare _ _ _, h | .trailing _ _, h | .between _ _ _ _, h | .existence _ _, h
  | .membership _ _ _, h | .quantified _ _ _ _, h => by
      obtain ⟨hfail, htext⟩ := h _ (List.mem_singleton_self _)
      exact ⟨hfail, fun before => Spells.atom (htext before)⟩

/-- Attached chains go on with a text that is there. The text grows at its end,
since an item in front of others can be merged with the next one. -/
theorem Attached.spells {style : Style} : ∀ as : List (Attached Assembled),
    (∀ p, .atom p ∈ Attached.lexemes as → p.Visible style) →
      Encounter.failure? (Node.encountersAll (Attached.nodes as)) = none
        ∧ ∀ {s : String} (ts : List (Lexeme (Predicate Assembled))), Spells style s ts →
            ∀ before, Spells style
              (" ".intercalate
                (s :: (Node.texts style before (Attached.nodes as)).filter (· != "")))
              (ts ++ Attached.lexemes as)
  | [], _ => by
      refine ⟨rfl, fun {s} ts hs before => ?_⟩
      rw [Attached.lexemes, List.append_nil]
      exact hs
  | ⟨connector, conditions⟩ :: rest, h => by
      rw [Attached.lexemes] at h
      obtain ⟨hfirst, hspell⟩ := conditions.spells conditions.hasNested fun p hp =>
        h p (List.mem_append_left _ (List.mem_append_right _ (Lexeme.atom_mem_unit.mpr hp)))
      obtain ⟨hrest, hspells⟩ := Attached.spells rest fun p hp =>
        h p (List.mem_append_right _ hp)
      let chain := conditions.chainNode conditions.hasNested
      refine ⟨?_, fun {s} ts hs before => ?_⟩
      · have hchild := Node.encounters_around (some connector.keyword) false [chain]
        rw [Node.encountersAll, Node.encountersAll, List.append_nil] at hchild
        rw [Attached.nodes, Node.encountersAll]
        exact Encounter.failure?_append_eq_none.mpr ⟨hchild ▸ hfirst, hrest⟩
      · have hunit := hspell before
        have hitem := (Spells.connector connector).join hunit
        rw [← Node.text_behind connector.keyword hunit.nonempty] at hitem
        rw [Attached.nodes, Node.texts_cons,
          List.filter_cons_of_pos (by simpa using hitem.nonempty), Attached.lexemes,
          ← List.append_assoc]
        exact hspells _ (hs.join hitem) _

end

end SqlBuilder
