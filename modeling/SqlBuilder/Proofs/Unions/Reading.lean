import Mathlib.Data.List.Forall2
import SqlBuilder.Proofs.Conditions.Spelling
import SqlBuilder.Proofs.Unions.Nesting

/-!
# Unions are read as they were built

A rendered selection spells its lexemes (`Select.spells`), in which only the
parentheses around members come and go; these lexemes have one reading, and it is
the nesting of the selection (`unions_read_as_nested`).

The text of a selection is followed from its front: behind a text that spells some
lexemes, the texts of further nodes spell theirs (`Follows`).
-/

namespace SqlBuilder

open Lexeme (Phrase spell)

/-! ## Texts of clauses -/

theorem intercalate_merge (delimiter : String) (bs : List String) :
    ∀ (as : List String) (s : String),
      delimiter.intercalate (s :: (as ++ bs))
        = delimiter.intercalate (delimiter.intercalate (s :: as) :: bs)
  | [], _ => rfl
  | a :: as, s => intercalate_merge delimiter bs as (s ++ delimiter ++ a)

theorem intercalate_ne_empty {delimiter s : String} (h : s ≠ "") :
    ∀ as : List String, delimiter.intercalate (s :: as) ≠ ""
  | [] => h
  | a :: as => intercalate_ne_empty (s := s ++ delimiter ++ a) (by simp [h]) as

/-- A node that a word opens is not empty. -/
theorem Node.text_opened_ne_empty {word : String} (hword : word ≠ "") (style : Style)
    (before : Nat) (joinNodes : Bool) (leaves : List (Token Assembled))
    (children : List (Node Assembled)) (delimiter : String) :
    Node.text style before
      ⟨{ token := some (.keyword word), joinNodes }, leaves, children, delimiter⟩ ≠ "" := by
  have hword' : String.join [word] = word := by simp
  rw [text, template, Template.fill_layout (style.filling_shows before)]
  exact intercalate_ne_empty (hword'.symm ▸ hword) _

theorem Node.encountersAll_append (bs as : List (Node Assembled)) :
    Node.encountersAll (as ++ bs) = Node.encountersAll as ++ Node.encountersAll bs := by
  induction as with
  | nil => rfl
  | cons a rest ih =>
      rw [List.cons_append, encountersAll, encountersAll, ih, List.append_assoc]

/-! ## Spelling -/

/-- Some formatter of the style renders it to the text, alone. -/
def Style.Renders {α : Type} [Assemble α Assembled] (style : Style) (a : α) (text : String) :
    Prop :=
  ∃ f : Formatter, f.style = style ∧ (f.renderStatement a).1 = .ok text

/-- How a lexeme is written: cores and the clauses behind a chain as they are
rendered alone. -/
def SetLexeme.Written (style : Style) : SetLexeme Assembled → Lexeme String → Prop
  | .core c, .atom text => style.Renders c text
  | .union keepsDuplicates, .atom text => text = UnionMember.keyword keepsDuplicates
  | .orderBy elements, .atom text => style.Renders (OrderElement.clause elements) text
  | .limit e, .atom text => style.Renders (Clause.expression Keyword.limit (some e)) text
  | .offset e, .atom text => style.Renders (Clause.expression Keyword.offset (some e)) text
  | .opening, .opening => True
  | .closing, .closing => True
  | _, _ => False

/-- The text spells the lexemes. -/
structure SetSpells (style : Style) (text : String) (ts : List (SetLexeme Assembled)) : Prop where
  nonempty : text ≠ ""
  written : ∃ ws : List (Lexeme String), Phrase ws ∧ text = spell ws
    ∧ List.Forall₂ (SetLexeme.Written style) ts ws

namespace SetSpells

variable {style : Style} {s t : String} {ts us : List (SetLexeme Assembled)}

theorem atom {l : SetLexeme Assembled} (hs : s ≠ "") (hl : l.Written style (.atom s)) :
    SetSpells style s [l] :=
  ⟨hs, [.atom s], Phrase.atom s, rfl, .cons hl .nil⟩

theorem union (keepsDuplicates : Bool) :
    SetSpells style (UnionMember.keyword keepsDuplicates) [.union keepsDuplicates] :=
  atom (by cases keepsDuplicates <;> decide) rfl

theorem join (hs : SetSpells style s ts) (ht : SetSpells style t us) :
    SetSpells style (s ++ " " ++ t) (ts ++ us) := by
  obtain ⟨-, ws, hphrase, rfl, hwritten⟩ := hs
  obtain ⟨-, ws', hphrase', rfl, hwritten'⟩ := ht
  exact ⟨by simp, ws ++ ws', hphrase.append hphrase', (Lexeme.spell_append hphrase hphrase').symm,
    List.rel_append hwritten hwritten'⟩

theorem enclose (parentheses : Bool) (hs : SetSpells style s ts) :
    SetSpells style (if parentheses then parenthesize s else s)
      (SetLexeme.enclose parentheses ts) := by
  cases parentheses with
  | false => exact hs
  | true =>
      obtain ⟨-, ws, hphrase, rfl, hwritten⟩ := hs
      refine ⟨by simp [parenthesize], Lexeme.parenthesize ws, Phrase.parenthesize ws,
        (Lexeme.spell_parenthesize hphrase).symm, ?_⟩
      exact .cons trivial (List.rel_append hwritten (.cons trivial .nil))

end SetSpells

/-! ## Texts behind a text -/

/-- Behind a text that spells, the nodes go on with the lexemes. -/
def Follows (style : Style) (nodes : List (Node Assembled)) (ts : List (SetLexeme Assembled)) :
    Prop :=
  Encounter.failure? (Node.encountersAll nodes) = none →
    ∀ before {s : String} {us : List (SetLexeme Assembled)}, SetSpells style s us →
      SetSpells style
        (" ".intercalate (s :: (Node.texts style before nodes).filter (· != ""))) (us ++ ts)

namespace Follows

variable {style : Style} {nodes nodes' : List (Node Assembled)} {n : Node Assembled}
  {ts us : List (SetLexeme Assembled)}

theorem nil : Follows style [] [] := by
  intro _ before s us hs
  rw [List.append_nil]
  exact hs

theorem append (h : Follows style nodes ts) (h' : Follows style nodes' us) :
    Follows style (nodes ++ nodes') (ts ++ us) := by
  intro hfail before s ls hs
  rw [Node.encountersAll_append, Encounter.failure?_append_eq_none] at hfail
  obtain ⟨behind, htexts⟩ := Node.texts_append style nodes' nodes before
  rw [htexts, List.filter_append, intercalate_merge, ← List.append_assoc]
  exact h' hfail.2 behind (h hfail.1 before hs)

theorem single (h : Encounter.failure? n.encounters = none →
    ∀ before, SetSpells style (n.text style before) ts) : Follows style [n] ts := by
  intro hfail before s us hs
  rw [Node.encountersAll, Node.encountersAll, List.append_nil] at hfail
  have hn := h hfail before
  rw [Node.texts_cons, Node.texts_nil, List.filter_cons_of_pos (by simpa using hn.nonempty)]
  exact hs.join hn

/-- A clause that a word opens is one lexeme. -/
theorem clause (script : Script Assembled) {word : String} (joinNodes : Bool)
    {leaves : List (Token Assembled)} {children : List (Node Assembled)} {delimiter : String}
    {l : SetLexeme Assembled} (hword : word ≠ "")
    (hforms : script.Forms ⟨{ token := some (.keyword word), joinNodes }, leaves, children,
      delimiter⟩ none)
    (hl : ∀ text, style.Renders script text → l.Written style (.atom text)) :
    Follows style [⟨{ token := some (.keyword word), joinNodes }, leaves, children, delimiter⟩]
      [l] :=
  single fun hfail before =>
    .atom (Node.text_opened_ne_empty hword style before joinNodes leaves children delimiter)
      (hl _ (Formatter.exists_renders (a := script) hforms hfail style before))

theorem order (elements : List (OrderElement Assembled)) :
    Follows style (OrderElement.clauseNodes elements)
      ((if elements.isEmpty then none else some elements).toList.map .orderBy) := by
  unfold OrderElement.clauseNodes
  cases elements with
  | nil => exact nil
  | cons o rest =>
      refine clause (OrderElement.clause (o :: rest)) true (by decide) ?_ fun _ h => h
      have hcontent : Script.Builds ((o :: rest).flatMap OrderElement.script) []
          ((o :: rest).map OrderElement.node) none :=
        Script.Builds.flatMap fun o _ => o.forms.builds
      rw [List.flatMap_def] at hcontent
      exact hcontent.forms _ _

theorem expression (lexeme : Expression Assembled → SetLexeme Assembled) {keyword : String}
    (hkeyword : keyword ≠ "")
    (hlexeme : ∀ e text, style.Renders (Clause.expression keyword (some e)) text →
      (lexeme e).Written style (.atom text))
    (e : Option (Expression Assembled)) :
    Follows style (Clause.expressionNodes keyword e) (e.toList.map lexeme) := by
  cases e with
  | none => exact nil
  | some e =>
      exact clause (Clause.expression keyword (some e)) false hkeyword
        ((Script.Builds.leaf (.expression e)).forms _ _) (hlexeme e)

theorem trailing (s : Select Assembled) :
    Follows style s.trailingNodes s.trailing.lexemes :=
  ((order s.ordering).append
    (expression .limit (by decide) (fun _ _ h => h) s.rowLimit)).append
    (expression .offset (by decide) (fun _ _ h => h) s.rowOffset)

end Follows

/-! ## Texts of selections -/

/-- The texts in front of the unions are not all empty, and together are the core as
it is rendered alone. -/
theorem Select.spells_core (style : Style) (s : Select Assembled)
    (hfail : Encounter.failure? (Node.encountersAll s.coreNodes) = none) (before : Nat) :
    ∃ first rest, (Node.texts style before s.coreNodes).filter (· != "") = first :: rest
      ∧ SetSpells style (" ".intercalate (first :: rest)) [.core s.core] := by
  have hfirst : s.outputNode.text style before ≠ "" :=
    Node.text_opened_ne_empty (by split <;> decide) style before false _ _ _
  let behind := before + (style.collects s.outputNode.encounters).length
  let clauses := s.coreNodes.tail
  have htexts : (Node.texts style before s.coreNodes).filter (· != "")
      = s.outputNode.text style before :: (Node.texts style behind clauses).filter (· != "") := by
    show (Node.texts style before (s.outputNode :: clauses)).filter (· != "") = _
    rw [Node.texts_cons, List.filter_cons_of_pos (by simpa using hfirst)]
  have hcore : s.core.node = ⟨.empty, [], s.coreNodes, defaultDelimiter⟩ := by
    have hchildren : s.core.coreNodes ++ UnionMember.nodes s.core.unions ++ s.core.trailingNodes
        = s.coreNodes := (List.append_nil _).trans (List.append_nil _)
    rw [Select.node_eq, hchildren]
  have htext : s.core.node.text style before
      = " ".intercalate ((Node.texts style before s.coreNodes).filter (· != "")) := by
    rw [hcore]
    exact Node.text_around style before none false s.coreNodes
  have hencounters : s.core.node.encounters = Node.encountersAll s.coreNodes := by
    rw [hcore]
    exact Node.encounters_around none false s.coreNodes
  refine ⟨_, _, htexts, .atom (intercalate_ne_empty hfirst _) ?_⟩
  rw [← htexts, ← htext]
  exact Formatter.exists_renders s.core.forms (hencounters ▸ hfail) style before

mutual

theorem Select.spells (style : Style) (parentheses : Bool) : ∀ s : Select Assembled,
    Encounter.failure? (s.nestedNode parentheses).encounters = none → ∀ before,
      SetSpells style ((s.nestedNode parentheses).text style before)
        (SetLexeme.enclose parentheses s.setLexemes)
  | ⟨isDistinct, outputs, sources, joins, restriction, grouping, groupRestriction, unions,
      ordering, rowLimit, rowOffset⟩ => by
      intro hfail before
      let s : Select Assembled := ⟨isDistinct, outputs, sources, joins, restriction, grouping,
        groupRestriction, unions, ordering, rowLimit, rowOffset⟩
      let behindCore := UnionMember.nodes unions ++ s.trailingNodes
      have hnode : s.nestedNode parentheses
          = ⟨Metadata.empty.parenthesized parentheses, [], s.coreNodes ++ behindCore,
              defaultDelimiter⟩ := by
        rw [Select.nestedNode, List.append_assoc]
      have hencounters : (s.nestedNode parentheses).encounters
          = Node.encountersAll s.coreNodes ++ Node.encountersAll behindCore := by
        rw [hnode, ← Node.encountersAll_append]
        exact Node.encounters_around none parentheses _
      rw [hencounters, Encounter.failure?_append_eq_none] at hfail
      obtain ⟨behind, htexts⟩ := Node.texts_append style behindCore s.coreNodes before
      obtain ⟨first, rest, hfirst, hcore⟩ := s.spells_core style hfail.1 before
      have hfollows := (UnionMember.follows style unions).append (Follows.trailing s)
      have hspells := hfollows hfail.2 behind hcore
      rw [← intercalate_merge, ← List.cons_append, ← hfirst, ← List.filter_append, ← htexts]
        at hspells
      have htext := Node.text_around style before none parentheses (s.coreNodes ++ behindCore)
      have hlexemes : s.setLexemes = [.core s.core] ++ (UnionMember.setLexemes unions
          ++ s.trailing.lexemes) := by
        rw [← List.append_assoc]
        exact Select.setLexemes.eq_1 ..
      show SetSpells style ((s.nestedNode parentheses).text style before)
        (SetLexeme.enclose parentheses s.setLexemes)
      rw [hnode, hlexemes]
      exact htext ▸ hspells.enclose parentheses

theorem UnionMember.follows (style : Style) : ∀ members : List (UnionMember Assembled),
    Follows style (UnionMember.nodes members) (UnionMember.setLexemes members)
  | [] => Follows.nil
  | ⟨keepsDuplicates, select⟩ :: rest => by
      have hmember : Follows style
          [⟨.keyword (UnionMember.keyword keepsDuplicates), [],
            [select.nestedNode select.needsParentheses], defaultDelimiter⟩]
          (.union keepsDuplicates
            :: SetLexeme.enclose select.needsParentheses select.setLexemes) := by
        refine Follows.single fun hfail before => ?_
        have hencounters := Node.encounters_around (some (UnionMember.keyword keepsDuplicates))
          false [select.nestedNode select.needsParentheses]
        rw [Node.encountersAll, Node.encountersAll, List.append_nil] at hencounters
        have hselect := select.spells style select.needsParentheses
          (hencounters ▸ hfail) before
        rw [Node.text_behind _ hselect.nonempty]
        exact (SetSpells.union keepsDuplicates).join hselect
      rw [UnionMember.nodes, UnionMember.setLexemes]
      exact hmember.append (UnionMember.follows style rest)

end

/-- If a selection with unions renders, its text spells its lexemes, each core and
each clause behind a chain as it is rendered alone. The lexemes are read in one way:
as the nesting of the selection, from which it can be built again. -/
theorem unions_read_as_nested (f : Formatter) (s : Select Assembled) {text : String}
    (h : (f.renderStatement s).1 = .ok text) :
    (∃ ws, text = spell ws ∧ List.Forall₂ (SetLexeme.Written f.style) s.setLexemes ws)
      ∧ (∀ q, SetOperation.Reads .query s.setLexemes q ↔ q = s.setQuery)
      ∧ s.setQuery.select = s := by
  obtain ⟨hspec, -⟩ := f.renderStatement_spec s s.forms
  rw [hspec] at h
  obtain ⟨hfail, rfl⟩ := Encounter.outcome_eq_ok.mp h
  obtain ⟨-, ws, -, htext, hwritten⟩ := s.spells f.style false hfail f.params.length
  refine ⟨⟨ws, htext, hwritten⟩, fun q => ⟨fun hq => hq.unique s.reads, ?_⟩, s.select_setQuery⟩
  rintro rfl
  exact s.reads

/-- Both kinds of union and both kinds of limit: one inside a member, one behind it. -/
theorem unions_read_as_nested_limits :
    let table (name : String) : Select Assembled := { sources := [.raw name] }
    let member := ((table "b").union (table "c")).limit (.raw "2")
    let s := ((table "a").unionAll member).limit (.raw "1")
    ∃ text, ((Formatter.new .literal).renderStatement s).1 = .ok text
      ∧ text = "SELECT * FROM a UNION ALL (SELECT * FROM b UNION SELECT * FROM c LIMIT 2) LIMIT 1"
      ∧ ∀ q, SetOperation.Reads .query s.setLexemes q ↔ q
        = .trailed (.union true (.core (table "a"))
            (.trailed (.union false (.core (table "b")) (.core (table "c")))
              { limit := some (.raw "2") }))
            { limit := some (.raw "1") } :=
  ⟨_, rfl, by decide, (unions_read_as_nested (Formatter.new .literal) _ rfl).2.1⟩

end SqlBuilder
