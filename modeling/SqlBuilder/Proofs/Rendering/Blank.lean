import SqlBuilder.Proofs.Assembly.Placement
import SqlBuilder.Proofs.Rendering.TokenOrder

/-!
# Items that render to nothing

A text is empty only if its template is blank, and a blank template has no slots; so
what renders to nothing has met no parameter either (`blank_of_run`). One blank
template more among the leaves behind the token, or among the children, is dropped
by the layout, and as it meets nothing the numbers behind it stay as they are
(`Node.template_insert_leaf`, `Node.template_insert_child`).

Among the leaves in front of the token this does not hold: the blank leaf counts for
the token's position.
-/

namespace SqlBuilder

namespace Template

/-! ## Lists with one blank template more -/

/-- The first list is the second one with a blank template behind so many others. -/
inductive WithBlank : Nat → List Template → List Template → Prop where
  | here {t : Template} (ht : t.isBlank = true) (ts : List Template) : WithBlank 0 (t :: ts) ts
  | behind (t : Template) {n : Nat} {ts us : List Template} (h : WithBlank n ts us) :
      WithBlank (n + 1) (t :: ts) (t :: us)

theorem isBlank_shift (n : Nat) (t : Template) : (shift n t).isBlank = t.isBlank := by
  rw [shift, isBlank, isBlank, List.all_map]
  refine congrArg (List.all t) (funext fun p => ?_)
  cases p <;> rfl

theorem map_shift_zero (ts : List Template) : ts.map (shift 0) = ts := by
  have hpiece : Piece.shift 0 = id := by
    funext p
    cases p with
    | fixed text => rfl
    | slot index value => exact congrArg (Piece.slot · value) (Nat.zero_add index)
  have hshift : shift 0 = id := by
    funext t
    rw [shift, hpiece, List.map_id, id]
  rw [hshift, List.map_id]

namespace WithBlank

variable {n position : Nat} {ts us : List Template}

theorem map_shift (h : WithBlank n ts us) (k : Nat) :
    WithBlank n (ts.map (shift k)) (us.map (shift k)) := by
  induction h with
  | here ht ts => exact .here ((isBlank_shift k _).trans ht) _
  | behind t _ ih => exact .behind (shift k t) ih

theorem filter_eq (h : WithBlank n ts us) :
    ts.filter (!·.isBlank) = us.filter (!·.isBlank) := by
  induction h with
  | here ht ts => exact List.filter_cons_of_neg (by simp [ht])
  | behind t _ ih => rw [List.filter_cons, List.filter_cons, ih]

/-- A cut in front of the blank template or at the end of the list leaves the same on
both sides, but for blank templates. -/
theorem filter_split (h : WithBlank n ts us) (hcut : position ≤ n ∨ us.length ≤ n) :
    (ts.take position).filter (!·.isBlank) = (us.take position).filter (!·.isBlank)
      ∧ (ts.drop position).filter (!·.isBlank) = (us.drop position).filter (!·.isBlank) := by
  induction h generalizing position with
  | @here t ht ts =>
      cases position with
      | zero => exact ⟨rfl, (WithBlank.here ht ts).filter_eq⟩
      | succ position =>
          obtain rfl : ts = [] := by simpa using hcut
          simp [ht]
  | behind t h ih =>
      cases position with
      | zero => exact ⟨rfl, (WithBlank.behind t h).filter_eq⟩
      | succ position =>
          obtain ⟨htake, hdrop⟩ := ih (by simpa using hcut)
          rw [List.take_succ_cons, List.take_succ_cons, List.filter_cons, List.filter_cons, htake]
          exact ⟨rfl, hdrop⟩

end WithBlank

/-- The layout of a node drops blank templates. -/
theorem layout_congr {σ : Type} (m : Metadata σ) (delimiter : String) (token : Option Template)
    {leaves leaves' children children' : List Template}
    (hbefore : (leaves.take m.position).filter (!·.isBlank)
      = (leaves'.take m.position).filter (!·.isBlank))
    (hafter : (leaves.drop m.position).filter (!·.isBlank)
      = (leaves'.drop m.position).filter (!·.isBlank))
    (hchildren : children.filter (!·.isBlank) = children'.filter (!·.isBlank)) :
    layout m delimiter leaves token children = layout m delimiter leaves' token children' := by
  obtain ⟨_, position, parentheses, joinNodes⟩ := m
  cases joinNodes <;>
    simp only [layout, joinedItems, hbefore, hafter, hchildren, List.filter_append, if_true,
      Bool.false_eq_true, if_false]

/-- Of templates one behind the other, those behind a blank one that meets nothing keep
their numbers. -/
theorem templates_insert {α : Type} {walk : α → List Encounter} {template : α → Template}
    {templates : List α → List Template}
    (cons : ∀ a rest, templates (a :: rest)
      = template a :: (templates rest).map (shift (Encounter.count (walk a))))
    {a : α} (ha : walk a = []) (hblank : (template a).isBlank = true) (front back : List α) :
    WithBlank front.length (templates (front ++ a :: back)) (templates (front ++ back)) := by
  induction front with
  | nil =>
      have hcount : Encounter.count (walk a) = 0 := by rw [ha]; rfl
      rw [List.nil_append, List.nil_append, cons, hcount, map_shift_zero]
      exact .here hblank _
  | cons first rest ih =>
      rw [List.cons_append, List.cons_append, cons, cons]
      exact .behind _ (ih.map_shift _)

end Template

/-- What meets nothing does not change a walk. -/
theorem Encounter.walk_insert {α : Type} {walk : α → List Encounter}
    {walkAll : List α → List Encounter}
    (cons : ∀ a rest, walkAll (a :: rest) = walk a ++ walkAll rest) {a : α} (ha : walk a = [])
    (front back : List α) : walkAll (front ++ a :: back) = walkAll (front ++ back) := by
  induction front with
  | nil => rw [List.nil_append, List.nil_append, cons, ha, List.nil_append]
  | cons first rest ih => rw [List.cons_append, List.cons_append, cons, cons, ih]

/-! ## Nodes with a blank item more -/

theorem Token.length_templates (config : RenderConfig) (tokens : List (Token Assembled)) :
    (Token.templates config tokens).length = tokens.length := by
  induction tokens with
  | nil => rfl
  | cons token rest ih => simp [Token.templates, ih]

theorem Token.encountersAll_insert {leaf : Token Assembled} (hleaf : leaf.encounters = [])
    (front back : List (Token Assembled)) :
    Token.encountersAll (front ++ leaf :: back) = Token.encountersAll (front ++ back) :=
  Encounter.walk_insert (fun _ _ => rfl) hleaf front back

namespace Node

variable {leaf : Token Assembled} {child : Node Assembled}

theorem encounters_insert_leaf (hleaf : leaf.encounters = []) (m : Metadata Assembled)
    (front back : List (Token Assembled)) (children : List (Node Assembled))
    (delimiter : String) :
    encounters ⟨m, front ++ leaf :: back, children, delimiter⟩
      = encounters ⟨m, front ++ back, children, delimiter⟩ := by
  rw [encounters, encounters, Token.encountersAll_insert hleaf]

/-- A blank leaf behind the place of the token, or at the end, leaves the template as it
is. -/
theorem template_insert_leaf (config : RenderConfig) (hleaf : leaf.encounters = [])
    (hblank : (leaf.template config).isBlank = true) {m : Metadata Assembled}
    {front back : List (Token Assembled)} (hplace : m.position ≤ front.length ∨ back = [])
    (children : List (Node Assembled)) (delimiter : String) :
    template config ⟨m, front ++ leaf :: back, children, delimiter⟩
      = template config ⟨m, front ++ back, children, delimiter⟩ := by
  have hinsert : Template.WithBlank front.length (Token.templates config (front ++ leaf :: back))
      (Token.templates config (front ++ back)) :=
    Template.templates_insert (fun _ _ => rfl) hleaf hblank front back
  have hcut : m.position ≤ front.length
      ∨ (Token.templates config (front ++ back)).length ≤ front.length := by
    refine hplace.imp_right ?_
    rintro rfl
    rw [List.append_nil]
    exact Nat.le_of_eq (Token.length_templates config front)
  obtain ⟨hbefore, hafter⟩ := hinsert.filter_split hcut
  rw [template, template, Token.encountersAll_insert hleaf]
  exact Template.layout_congr _ delimiter _ hbefore hafter rfl

theorem encounters_insert_child (hchild : child.encounters = []) (m : Metadata Assembled)
    (leaves : List (Token Assembled)) (front back : List (Node Assembled))
    (delimiter : String) :
    encounters ⟨m, leaves, front ++ child :: back, delimiter⟩
      = encounters ⟨m, leaves, front ++ back, delimiter⟩ := by
  have hchildren : encountersAll (front ++ child :: back) = encountersAll (front ++ back) :=
    Encounter.walk_insert (fun _ _ => rfl) hchild front back
  rw [encounters, encounters, hchildren]

theorem template_insert_child (config : RenderConfig) (hchild : child.encounters = [])
    (hblank : (child.template config).isBlank = true) (m : Metadata Assembled)
    (leaves : List (Token Assembled)) (front back : List (Node Assembled))
    (delimiter : String) :
    template config ⟨m, leaves, front ++ child :: back, delimiter⟩
      = template config ⟨m, leaves, front ++ back, delimiter⟩ := by
  have hinsert : Template.WithBlank front.length (templates config (front ++ child :: back))
      (templates config (front ++ back)) :=
    Template.templates_insert (fun _ _ => rfl) hchild hblank front back
  rw [template, template]
  exact Template.layout_congr _ delimiter _ rfl rfl (hinsert.map_shift _).filter_eq

end Node

/-! ## Rendering -/

namespace Formatter

/-- Some formatter of the same configuration, in whichever mode and whatever it holds,
renders it to the empty text. -/
def RendersEmpty (f : Formatter) (act : Style → Render String) : Prop :=
  ∃ g : Formatter, g.style.config = f.style.config ∧ (g.run act).1 = .ok ""

/-- The same text or error and the same parameters, with each value under the same number
at the same place of the text. -/
def RendersAlike (f : Formatter) (n n' : Node Assembled) : Prop :=
  SameOutcome (f.renderNode n) (f.renderNode n')
    ∧ n.template f.style.config = n'.template f.style.config

theorem RendersAlike.intro (f : Formatter) {n n' : Node Assembled}
    (hencounters : n.encounters = n'.encounters)
    (htemplate : n.template f.style.config = n'.template f.style.config) :
    f.RendersAlike n n' := by
  have hn := n.denotes f.style
  rw [hencounters, htemplate] at hn
  exact ⟨SameOutcome.of_denotes f hn (n'.denotes f.style), htemplate⟩

section Run

variable {f : Formatter} {act : Style → Render String} {xs : List Encounter} {t : Template}
  {p : Prop}

/-- What renders to nothing meets nothing and has a blank template. -/
theorem blank_of_run (hact : Denotes f.style (act f.style) xs fun before =>
      t.fill (f.style.filling before)) (hslots : Carries p t.slots xs)
    (h : (f.run act).1 = .ok "") : xs = [] ∧ t.isBlank = true := by
  rw [(f.run_of_denotes hact).1] at h
  obtain ⟨hfail, hempty⟩ := Encounter.outcome_eq_ok.mp h
  have hblank := (Template.fill_eq_empty_iff (f.style.filling_shows _) t).mp hempty
  exact ⟨(hslots.eq_nil_iff hfail).mp (Template.slots_eq_nil_of_isBlank hblank), hblank⟩

theorem ne_empty_of_params (hact : Denotes f.style (act f.style) xs fun before =>
      t.fill (f.style.filling before)) (hslots : Carries p t.slots xs)
    (h : (f.run act).2.params ≠ f.params) : (f.run act).1 ≠ .ok "" := by
  intro hempty
  obtain ⟨rfl, -⟩ := blank_of_run hact hslots hempty
  refine h ((f.run_of_denotes hact).2.trans ?_)
  rw [f.style.collects_nil, List.append_nil]

end Run

end Formatter

/-- A leaf that renders to nothing, behind the place of the token or as the last leaf,
and a child that renders to nothing, anywhere among the children, leave no trace: with
or without it, every formatter renders the node alike, whatever the rest of the node is
and whether it can be rendered or not. (What is noted may differ: an empty name is noted
as an empty segment.)

This is so because no parameter hides in an empty text: an expression or a node that
appends a parameter does not render to nothing. -/
theorem empty_items_leave_no_trace (f : Formatter) (m : Metadata Assembled)
    (delimiter : String) :
    (∀ (leaf : Token Assembled) (front back : List (Token Assembled))
        (children : List (Node Assembled)),
      f.RendersEmpty (leaf.render ·) → m.position ≤ front.length ∨ back = [] →
        f.RendersAlike ⟨m, front ++ leaf :: back, children, delimiter⟩
          ⟨m, front ++ back, children, delimiter⟩)
    ∧ (∀ (child : Node Assembled) (leaves : List (Token Assembled))
        (front back : List (Node Assembled)),
      f.RendersEmpty (child.render ·) →
        f.RendersAlike ⟨m, leaves, front ++ child :: back, delimiter⟩
          ⟨m, leaves, front ++ back, delimiter⟩)
    ∧ (∀ e : Expression Assembled, (f.run (e.render ·)).2.params ≠ f.params →
        (f.run (e.render ·)).1 ≠ .ok "")
    ∧ ∀ n : Node Assembled, (f.renderNode n).2.params ≠ f.params →
        (f.renderNode n).1 ≠ .ok "" := by
  refine ⟨?_, ?_, ?_, ?_⟩
  · rintro leaf front back children ⟨g, hconfig, hempty⟩ hplace
    obtain ⟨hleaf, hblank⟩ :=
      Formatter.blank_of_run (leaf.denotes g.style) (leaf.carries g.style.config) hempty
    rw [hconfig] at hblank
    exact .intro f (Node.encounters_insert_leaf hleaf m front back children delimiter)
      (Node.template_insert_leaf f.style.config hleaf hblank hplace children delimiter)
  · rintro child leaves front back ⟨g, hconfig, hempty⟩
    obtain ⟨hchild, hblank⟩ :=
      Formatter.blank_of_run (child.denotes g.style) (child.carries g.style.config) hempty
    rw [hconfig] at hblank
    exact .intro f (Node.encounters_insert_child hchild m leaves front back delimiter)
      (Node.template_insert_child f.style.config hchild hblank m leaves front back delimiter)
  · intro e h
    exact Formatter.ne_empty_of_params (e.denotes f.style) (e.carries f.style.config) h
  · intro n h
    exact Formatter.ne_empty_of_params (n.denotes f.style) (n.carries f.style.config) h

/-- An empty name behind the token of a comparison, and an empty node among its children. -/
theorem empty_items_leave_no_trace_comparison :
    let f : Formatter := ⟨⟨.prepared, ⟨.numbered, false⟩⟩, { params := [.scalar (.bool true)] }⟩
    let m : Metadata Assembled := .operator "=" 1
    let number (n : Int32) : Expression Assembled := .value (.scalar (.int32 n))
    let name : Token Assembled := .expression (.column "")
    let nothing : Node Assembled := ⟨.empty, [.raw ""], [], defaultDelimiter⟩
    let last : Node Assembled := ⟨.keyword "AND", [.expression (number 3)], [], defaultDelimiter⟩
    let left : Token Assembled := .expression (number 1)
    let right : Token Assembled := .expression (number 2)
    let whole : Node Assembled := ⟨m, [left, right], [last], " + "⟩
    f.RendersEmpty (name.render ·) ∧ f.RendersEmpty (nothing.render ·)
      ∧ f.RendersAlike ⟨m, [left, name, right], [last], " + "⟩ whole
      ∧ f.RendersAlike ⟨m, [left, right], [nothing, last], " + "⟩ whole
      ∧ (f.renderNode whole).1.toOption = some "$2 = $3 AND $4"
      ∧ (f.run ((number 1).render ·)).1 ≠ .ok "" ∧ (f.renderNode last).1 ≠ .ok "" := by
  intro f m number name nothing last left right whole
  obtain ⟨hleaf, hchild, hexpression, hnode⟩ := empty_items_leave_no_trace f m " + "
  have hname : f.RendersEmpty (name.render ·) := ⟨f, rfl, rfl⟩
  have hnothing : f.RendersEmpty (nothing.render ·) := ⟨f, rfl, rfl⟩
  refine ⟨hname, hnothing, ?_, ?_, by decide, ?_, ?_⟩
  · exact hleaf name [left] [right] [last] hname (.inl (Nat.le_refl 1))
  · exact hchild nothing [left, right] [] [last] hnothing
  · exact hexpression (number 1) fun h => by cases congrArg List.length h
  · exact hnode last fun h => by cases congrArg List.length h

/-- In front of the token, an empty leaf takes the place of another one. -/
example :
    let f : Formatter := .new .literal
    (f.renderNode ⟨.operator "=" 1, [.raw "", .raw "a", .raw "b"], [], " "⟩).1 = .ok "= a b"
      ∧ (f.renderNode ⟨.operator "=" 1, [.raw "a", .raw "b"], [], " "⟩).1 = .ok "a = b" :=
  ⟨rfl, rfl⟩

end SqlBuilder
