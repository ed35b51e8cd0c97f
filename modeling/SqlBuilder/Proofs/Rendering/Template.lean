import SqlBuilder.Proofs.Rendering.ValueText
import SqlBuilder.Render

/-!
# Templates

A template is the text of something rendered with the values left out: a
sequence of fixed fragments and of numbered slots. What stands in the slots is
a `Filling`, and `Template.fill` puts it there.

Every step of the layout has its counterpart on templates, and filling
commutes with it (`fill_layout`, `fill_call` and the lemmas before them). Which
items are dropped is where this could fail: it holds because a filling that
`Shows` leaves no slot empty, so a template is filled to the empty text only if
it is blank (`fill_eq_empty_iff`).
-/

namespace SqlBuilder

/-- A part of a template: a fragment that is always the same, or the place of
a value, under a number. -/
inductive Piece where
  | fixed (text : String)
  | slot (index : Nat) (value : Value)

/-- What stands in a slot, by its number and its value. -/
abbrev Filling := Nat → Value → String

namespace Piece

def fill (place : Filling) : Piece → String
  | .fixed text => text
  | .slot index value => place index value

def slot? : Piece → Option (Value × Nat)
  | .fixed _ => none
  | .slot index value => some (value, index)

/-- The same with the number of a slot moved up. -/
def shift (n : Nat) : Piece → Piece
  | .fixed text => .fixed text
  | .slot index value => .slot (n + index) value

def isBlank : Piece → Bool
  | .fixed text => text == ""
  | .slot _ _ => false

end Piece

abbrev Template := List Piece

namespace Template

/-! ## Filling, and what is to be filled -/

/-- The text with the slots filled. -/
def fill (place : Filling) (t : Template) : String := String.join (t.map (Piece.fill place))

/-- The slots in the order of the text. -/
def slots (t : Template) : List (Value × Nat) := t.filterMap Piece.slot?

def shift (n : Nat) (t : Template) : Template := t.map (Piece.shift n)

/-- Nothing but empty fragments. -/
def isBlank (t : Template) : Bool := t.all Piece.isBlank

/-- A filling that leaves no slot empty. -/
def Shows (place : Filling) : Prop := ∀ index value, place index value ≠ ""

@[simp] theorem fill_nil (place : Filling) : fill place [] = "" := rfl

@[simp] theorem fill_cons (place : Filling) (p : Piece) (t : Template) :
    fill place (p :: t) = p.fill place ++ fill place t := by
  simp [fill]

@[simp] theorem fill_append (place : Filling) (s t : Template) :
    fill place (s ++ t) = fill place s ++ fill place t := by
  simp [fill]

@[simp] theorem slots_nil : slots [] = [] := rfl

@[simp] theorem slots_fixed_cons (text : String) (t : Template) :
    slots (.fixed text :: t) = slots t := rfl

@[simp] theorem slots_append (s t : Template) : slots (s ++ t) = slots s ++ slots t :=
  List.filterMap_append

theorem fill_shift (place : Filling) (n : Nat) (t : Template) :
    fill place (shift n t) = fill (fun index => place (n + index)) t := by
  induction t with
  | nil => rfl
  | cons p rest ih =>
      have hp : (p.shift n).fill place = p.fill (fun index => place (n + index)) := by
        cases p <;> rfl
      rw [shift, List.map_cons, fill_cons, fill_cons, hp]
      exact congrArg _ ih

theorem shift_shift (m n : Nat) (t : Template) : shift m (shift n t) = shift (m + n) t := by
  rw [shift, shift, List.map_map]
  refine List.map_congr_left fun p _ => ?_
  cases p with
  | fixed text => rfl
  | slot index value => exact congrArg (Piece.slot · value) (Nat.add_assoc m n index).symm

theorem map_shift_shift (m n : Nat) (ts : List Template) :
    (ts.map (shift n)).map (shift m) = ts.map (shift (m + n)) := by
  rw [List.map_map]
  exact List.map_congr_left fun t _ => shift_shift m n t

theorem slots_shift (n : Nat) (t : Template) :
    slots (shift n t) = (slots t).map (Prod.map id (n + ·)) := by
  induction t with
  | nil => rfl
  | cons p rest ih =>
      cases p with
      | fixed text => exact ih
      | slot index value => exact congrArg ((value, n + index) :: ·) ih

theorem flatMap_slots_shift (n : Nat) (ts : List Template) :
    (ts.map (shift n)).flatMap slots = (ts.flatMap slots).map (Prod.map id (n + ·)) := by
  induction ts with
  | nil => rfl
  | cons t rest ih =>
      rw [List.map_cons, List.flatMap_cons, List.flatMap_cons, List.map_append, ih, slots_shift]

/-- A filling of the slots shows in the text: only a blank template is filled
to nothing. -/
theorem fill_eq_empty_iff {place : Filling} (hplace : Shows place) (t : Template) :
    fill place t = "" ↔ t.isBlank = true := by
  induction t with
  | nil => simp [isBlank]
  | cons p rest ih =>
      have hp : p.fill place = "" ↔ p.isBlank = true := by
        cases p with
        | fixed text => simp [Piece.fill, Piece.isBlank]
        | slot index value => simp [Piece.fill, Piece.isBlank, hplace index value]
      rw [fill_cons, String.append_eq_empty_iff, hp, ih]
      simp [isBlank]

/-- Without slots, all fillings are one. -/
theorem fill_congr_of_slots_eq_nil {t : Template} (h : t.slots = []) (place place' : Filling) :
    fill place t = fill place' t := by
  rw [slots, List.filterMap_eq_nil_iff] at h
  refine congrArg String.join (List.map_congr_left fun p hp => ?_)
  cases p with
  | fixed text => rfl
  | slot index value => cases h _ hp

theorem slots_eq_nil_of_isBlank {t : Template} (h : t.isBlank = true) : t.slots = [] := by
  rw [isBlank, List.all_eq_true] at h
  rw [slots, List.filterMap_eq_nil_iff]
  intro p hp
  cases p with
  | fixed text => rfl
  | slot index value => exact absurd (h _ hp) (by simp [Piece.isBlank])

/-! ## Parentheses and delimiters -/

def parenthesize (t : Template) : Template := .fixed "(" :: (t ++ [.fixed ")"])

/-- Templates with a delimiter between them. -/
def intercalate (delimiter : String) : List Template → Template
  | [] => []
  | [t] => t
  | t :: u :: rest => t ++ .fixed delimiter :: intercalate delimiter (u :: rest)

theorem fill_parenthesize (place : Filling) (t : Template) :
    fill place (parenthesize t) = SqlBuilder.parenthesize (fill place t) := by
  simp [parenthesize, SqlBuilder.parenthesize, Piece.fill, String.append_assoc]

@[simp] theorem slots_parenthesize (t : Template) : slots (parenthesize t) = slots t := by
  simp [parenthesize]

theorem fill_intercalate (place : Filling) (delimiter : String) : ∀ ts : List Template,
    fill place (intercalate delimiter ts) = delimiter.intercalate (ts.map (fill place))
  | [] => by simp [intercalate]
  | [t] => by simp [intercalate]
  | t :: u :: rest => by
      rw [intercalate, fill_append, fill_cons, fill_intercalate place delimiter (u :: rest)]
      simp [Piece.fill, String.append_assoc]

@[simp] theorem slots_intercalate (delimiter : String) : ∀ ts : List Template,
    slots (intercalate delimiter ts) = ts.flatMap slots
  | [] => rfl
  | [t] => by simp [intercalate]
  | t :: u :: rest => by
      rw [intercalate, slots_append, slots_fixed_cons, slots_intercalate delimiter (u :: rest),
        List.flatMap_cons, List.flatMap_cons, List.flatMap_cons]

/-! ## The layout of nodes -/

/-- The templates that are not blank, joined; nothing if there are none. -/
def joinedItems (delimiter : String) (items : List Template) : List Template :=
  match items.filter (!·.isBlank) with
  | [] => []
  | items => [intercalate delimiter items]

/-- The layout of a node, from the templates of its leaves, its token and its
children. -/
def layout {σ : Type} (m : Metadata σ) (delimiter : String) (leaves : List Template)
    (token : Option Template) (children : List Template) : Template :=
  let before := leaves.take m.position
  let after := leaves.drop m.position
  let items := if m.joinNodes then after ++ children else after
  let clauses := if m.joinNodes then [] else children
  let text :=
    intercalate " "
      (joinedItems delimiter before ++ token.toList ++ joinedItems delimiter items
        ++ clauses.filter (!·.isBlank))
  if m.parentheses then parenthesize text else text

/-- Dropping what is blank before filling is dropping what is empty after. -/
theorem map_fill_filter {place : Filling} (hplace : Shows place) (ts : List Template) :
    (ts.filter (!·.isBlank)).map (fill place) = (ts.map (fill place)).filter (· != "") := by
  induction ts with
  | nil => rfl
  | cons t rest ih =>
      have ht := fill_eq_empty_iff hplace t
      cases h : t.isBlank with
      | true => simp [h, ht.mpr h, ih]
      | false =>
          have hne : fill place t ≠ "" := fun heq => by simp [ht.mp heq] at h
          simp [h, hne, ih]

theorem map_fill_joinedItems {place : Filling} (hplace : Shows place) (delimiter : String)
    (ts : List Template) :
    (joinedItems delimiter ts).map (fill place)
      = SqlBuilder.joinedItems delimiter (ts.map (fill place)) := by
  unfold joinedItems SqlBuilder.joinedItems
  rw [← map_fill_filter hplace ts]
  cases ts.filter (!·.isBlank) with
  | nil => rfl
  | cons t rest => simp [fill_intercalate]

theorem fill_layout {σ : Type} {place : Filling} (hplace : Shows place) (m : Metadata σ)
    (delimiter : String) (leaves : List Template) (token : Option Template)
    (children : List Template) :
    fill place (layout m delimiter leaves token children)
      = m.layout delimiter (leaves.map (fill place)) (token.map (fill place))
          (children.map (fill place)) := by
  obtain ⟨_, position, parentheses, joinNodes⟩ := m
  have htoken : (token.map (fill place)).toList = token.toList.map (fill place) := by
    cases token <;> rfl
  cases parentheses <;> cases joinNodes <;>
    simp [layout, Metadata.layout, fill_parenthesize, fill_intercalate,
      map_fill_joinedItems hplace, map_fill_filter hplace, htoken]

theorem flatMap_slots_filter (ts : List Template) :
    (ts.filter (!·.isBlank)).flatMap slots = ts.flatMap slots := by
  induction ts with
  | nil => rfl
  | cons t rest ih =>
      cases h : t.isBlank with
      | true => simp [h, ih, slots_eq_nil_of_isBlank h]
      | false => simp [h, ih]

@[simp] theorem flatMap_slots_joinedItems (delimiter : String) (ts : List Template) :
    (joinedItems delimiter ts).flatMap slots = ts.flatMap slots := by
  unfold joinedItems
  rw [← flatMap_slots_filter ts]
  cases ts.filter (!·.isBlank) with
  | nil => rfl
  | cons t rest => simp

/-- The slots of a node, in the order of its text: those of the leaves in front
of the token, of the token, of the other leaves, and of the children. -/
theorem slots_layout {σ : Type} (m : Metadata σ) (delimiter : String)
    (leaves : List Template) (token : Option Template) (children : List Template) :
    slots (layout m delimiter leaves token children)
      = (leaves.take m.position).flatMap slots ++ token.toList.flatMap slots
          ++ (leaves.drop m.position).flatMap slots ++ children.flatMap slots := by
  obtain ⟨_, position, parentheses, joinNodes⟩ := m
  cases parentheses <;> cases joinNodes <;> simp [layout, flatMap_slots_filter]

/-! ## The layout of expressions -/

/-- A template with what follows an expression. -/
def attach (s : Suffix) (t : Template) : Template :=
  t ++ [.fixed s.castText, .fixed s.aliasText]

theorem fill_attach (place : Filling) (s : Suffix) (t : Template) :
    fill place (attach s t) = s.attach (fill place t) := by
  simp [attach, Suffix.attach, Piece.fill, String.append_assoc]

@[simp] theorem slots_attach (s : Suffix) (t : Template) : slots (attach s t) = slots t := by
  simp [attach]

/-- `ARRAY[...]` around some templates. -/
def array (ts : List Template) : Template :=
  .fixed "ARRAY[" :: (intercalate ", " ts ++ [.fixed "]"])

theorem fill_array (place : Filling) (ts : List Template) :
    fill place (array ts) = arrayLiteral (ts.map (fill place)) := by
  simp [array, arrayLiteral, fill_intercalate, Piece.fill, String.append_assoc]

@[simp] theorem slots_array (ts : List Template) : slots (array ts) = ts.flatMap slots := by
  simp [array]

/-- The row of a list of rows. -/
def row {σ : Type} (e : Expression σ) (t : Template) : Template :=
  if e.isSelfParenthesized then t else parenthesize t

theorem fill_row {σ : Type} (place : Filling) (e : Expression σ) (t : Template) :
    fill place (row e t) = e.rowText (fill place t) := by
  unfold row Expression.rowText
  split
  · rfl
  · exact fill_parenthesize place t

@[simp] theorem slots_row {σ : Type} (e : Expression σ) (t : Template) :
    slots (row e t) = slots t := by
  unfold row
  split
  · rfl
  · exact slots_parenthesize t

/-- The layout of a call, from the templates of its arguments. -/
def call {σ : Type} (name : String) (arguments : List (Expression σ)) (ts : List Template)
    (aliased : Bool) : Template :=
  if Expression.isValuesName name then
    let rows := .fixed name :: intercalate ", " (List.zipWith row arguments ts)
    if aliased then parenthesize rows else rows
  else
    match arguments, ts with
    | [argument], [lone] => .fixed name :: row argument lone
    | _, ts => .fixed name :: parenthesize (intercalate ", " ts)

theorem map_fill_zipWith_row {σ : Type} (place : Filling) :
    ∀ (es : List (Expression σ)) (ts : List Template),
      (List.zipWith row es ts).map (fill place)
        = List.zipWith Expression.rowText es (ts.map (fill place))
  | [], _ => by simp
  | _ :: _, [] => by simp
  | e :: es, t :: ts => by simp [fill_row, map_fill_zipWith_row place es ts]

theorem fill_call {σ : Type} (place : Filling) (name : String)
    (arguments : List (Expression σ)) (ts : List Template) (aliased : Bool) :
    fill place (call name arguments ts aliased)
      = Expression.callText name arguments (ts.map (fill place)) aliased := by
  unfold call Expression.callText
  by_cases hvalues : Expression.isValuesName name = true
  · rw [if_pos hvalues, if_pos hvalues, ← map_fill_zipWith_row, commaSeparated,
      ← fill_intercalate]
    cases aliased with
    | true => simp [fill_parenthesize, Piece.fill]
    | false => simp [Piece.fill]
  · rw [if_neg hvalues, if_neg hvalues]
    match arguments, ts with
    | [argument], [lone] => simp [fill_row, Piece.fill]
    | [], ts | _ :: _ :: _, ts | [_], [] | [_], _ :: _ :: _ =>
        simp [fill_parenthesize, fill_intercalate, commaSeparated, Piece.fill]

theorem flatMap_slots_zipWith_row {σ : Type} :
    ∀ {es : List (Expression σ)} {ts : List Template}, ts.length = es.length →
      (List.zipWith row es ts).flatMap slots = ts.flatMap slots
  | [], [], _ => rfl
  | e :: es, t :: ts, h => by
      have hlength : ts.length = es.length := by simpa using h
      simp [flatMap_slots_zipWith_row hlength]

theorem slots_call {σ : Type} (name : String) {arguments : List (Expression σ)}
    {ts : List Template} (hlength : ts.length = arguments.length) (aliased : Bool) :
    slots (call name arguments ts aliased) = ts.flatMap slots := by
  unfold call
  by_cases hvalues : Expression.isValuesName name = true
  · rw [if_pos hvalues, ← flatMap_slots_zipWith_row hlength]
    cases aliased <;> simp
  · rw [if_neg hvalues]
    match arguments, ts with
    | [argument], [lone] => simp
    | [], ts | _ :: _ :: _, ts | [_], [] | [_], _ :: _ :: _ => simp

end Template

end SqlBuilder
