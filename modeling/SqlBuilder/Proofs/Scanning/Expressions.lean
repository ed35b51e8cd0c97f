import SqlBuilder.Proofs.Rendering.LiteralText
import SqlBuilder.Proofs.Scanning.Safe

/-!
# Strings in expressions

Every string of an expression has a safe place in the text of the expression, if
those of its subqueries have (`Expression.safe`).
-/

namespace SqlBuilder

variable {α σ : Type}

namespace Safe

theorem string {R : Reading α} {content : String} {put : String → α} (hok : ∀ s, R.ok (put s))
    (h : HoldsAmong fun s => R.texts (put s)) : Safe R (.string content put) := by
  intro _ _
  refine ⟨?_, fun p hp => ?_⟩
  · obtain ⟨before, text, after, hbefore, hafter, htext, heq⟩ := h
    show ∀ t ∈ R.texts (put content), Neutral t
    have htexts : R.texts (put content) = before ++ text content :: after := heq content
    rw [htexts, List.forall_mem_append, List.forall_mem_cons]
    exact ⟨hbefore, htext.neutral content, hafter⟩
  · rw [List.mem_singleton.mp hp]
    exact ⟨hok, h⟩

end Safe

/-! ## Values -/

theorem Keeps.arrayLiteral : Keeps fun texts => [arrayLiteral texts] :=
  (Keeps.between (a := "ARRAY[") (b := "]") (by decide) (by decide)).comp
    (Keeps.intercalate (by decide : Neutral ", "))

def Reading.value : Reading Value := .single (fun _ => True) Value.literal

mutual

theorem Value.safe : ∀ v : Value, Safe .value v.marked
  | .scalar s => by
      have hneutral (s : Scalar) : Safe .value (.pure (.scalar s)) :=
        .pure (List.forall_mem_singleton.mpr s.neutral_literal)
      cases s with
      | text s =>
          show Safe .value (.string s fun s => .scalar (.text s))
          exact .string (fun _ => trivial) Holds.constant.among
      | null | bool _ | int16 _ | int32 _ | int64 _ | float32 _ | float64 _ | bytes _ | date _
      | time _ | timestamp _ | timestampTz _ | uuid _ | json _ => exact hneutral _
  | .array elements => by
      have helements := (Value.safeAll elements).through Keeps.arrayLiteral
      refine helements.mapEq (fun vs => ?_) fun vs => ?_
      · exact iff_of_true trivial fun _ _ => trivial
      · simp [Reading.value, Value.literal, Value.literals_eq_map]

theorem Value.safeAll : ∀ vs : List Value, Safe Reading.value.each (Value.markedAll vs)
  | [] => .blank rfl
  | v :: rest => v.safe.cons (Value.safeAll rest)

end

/-! ## What follows an expression -/

theorem Suffix.keeps_attach {s : Suffix} (h : ∀ t ∈ s.raw, Neutral t) :
    Keeps (List.map s.attach) := by
  obtain ⟨hcast, halias⟩ := List.forall_mem_append.mp h
  have hcastText : Neutral s.castText := by
    unfold castText
    split
    · exact Neutral.empty
    · rename_i type heq
      exact (by decide : Neutral "::").append (hcast type (by simp [heq]))
  have haliasText : Neutral s.aliasText := by
    have hname (a : Alias) (ha : s.aliased = some a) : Neutral a.name :=
      halias _ (List.mem_flatMap.mpr ⟨a, by simp [ha], List.mem_cons_self ..⟩)
    unfold aliasText
    split
    · exact Neutral.empty
    · rename_i name heq
      exact (by decide : Neutral " AS ").append (hname _ heq)
    · rename_i name columns _ heq
      have hcolumns : ∀ t ∈ columns, Neutral t := fun t ht =>
        halias t (List.mem_flatMap.mpr ⟨⟨name, columns⟩, by simp [heq],
          List.mem_cons_of_mem _ ht⟩)
      refine Neutral.append (Neutral.append (Neutral.append ?_ (by decide)) ?_) (by decide)
      · exact (by decide : Neutral " AS ").append (hname _ heq)
      · exact Neutral.intercalate (by decide) hcolumns
  exact .map (fun ht => (ht.append hcastText).append haliasText)
    fun ht => (ht.append hcastText).append haliasText

theorem Suffix.neutral_raw_empty : ∀ t ∈ raw {}, Neutral t := List.forall_mem_nil _

/-! ## Expressions -/

section Expressions

variable (config : RenderConfig)

def Reading.assembled : Reading Assembled :=
  .single Assembled.Complete (Assembled.literalText config)

def Reading.expression : Reading (Expression Assembled) :=
  .single Expression.Complete (Expression.literalText config)

/-- Expressions as rows of a list of rows. -/
def Reading.row : Reading (Expression Assembled) :=
  .single Expression.Complete fun e => e.rowText (e.literalText config)

theorem TextStyle.safe (content : String) {suffix : Suffix} (hraw : ∀ t ∈ suffix.raw, Neutral t)
    (style : TextStyle) :
    Safe (.expression config) (style.marked (σ := Assembled) config content suffix) := by
  have hattach := Suffix.keeps_attach hraw
  have hneutral {style : TextStyle} (h : Neutral (style.layout config content)) :
      Safe (.expression config) (.pure (.text content style suffix)) := by
    refine .pure ?_
    show ∀ t ∈ [Expression.literalText config _], Neutral t
    rw [Expression.literalText_text]
    exact hattach.neutral (List.forall_mem_singleton.mpr h)
  cases style with
  | stringConstant =>
      show Safe (.expression config) (.string content fun s => .text s .stringConstant suffix)
      refine .string (fun _ => rfl) ?_
      simp only [Reading.expression, Reading.texts_single, Expression.literalText_text]
      exact hattach.holds Holds.constant.among
  | dollarString tag => exact fun htame _ => absurd htame.dollarStrings (List.cons_ne_nil _ _)
  | raw => exact .withRaw fun h => hneutral (h content (List.mem_singleton_self content))
  | field =>
      refine .withRaw fun h => hneutral ?_
      rw [layout, QualifiedName.text_unquoted]
      exact h content (List.mem_singleton_self content)
  | column quoted =>
      refine .withRaw fun h => hneutral ?_
      rw [layout]
      cases hquoted : quoted.getD config.quoteIdentifiers with
      | true => exact QualifiedName.neutral_text_quoted content
      | false =>
          rw [hquoted] at h
          rw [QualifiedName.text_unquoted]
          exact h content (List.mem_singleton_self content)

/-! ## Calls -/

/-- A call with arguments of a given number: as rows, or in parentheses. -/
theorem Expression.callText_eq (name : String) (es : List (Expression Assembled))
    (aliased : Bool) :
    callText name es (es.map (literalText config)) aliased
      = if isValuesName name then
          let rows := name ++ commaSeparated (es.map fun e => e.rowText (e.literalText config))
          if aliased then parenthesize rows else rows
        else if es.length = 1 then
          name ++ commaSeparated (es.map fun e => e.rowText (e.literalText config))
        else name ++ parenthesize (commaSeparated (es.map (literalText config))) := by
  have hrows : List.zipWith rowText es (es.map (literalText config))
      = es.map fun e => e.rowText (e.literalText config) := by
    rw [List.zipWith_map_right, List.zipWith_self]
  unfold callText
  rw [hrows]
  split
  · rfl
  · match es with
    | [] | [_] | _ :: _ :: _ => rfl

theorem Expression.neutral_callText {name : String} (hname : Neutral name) (aliased : Bool)
    {es : List (Expression Assembled)} (hes : ∀ e ∈ es, Neutral (e.literalText config)) :
    Neutral (callText name es (es.map (literalText config)) aliased) := by
  have hrows : Neutral (commaSeparated (es.map fun e => e.rowText (e.literalText config))) := by
    refine Neutral.intercalate (by decide) (List.forall_mem_map.mpr fun e he => ?_)
    unfold rowText
    split
    · exact hes e he
    · exact (hes e he).parenthesize
  have htexts : Neutral (commaSeparated (es.map (literalText config))) :=
    Neutral.intercalate (by decide) (List.forall_mem_map.mpr hes)
  rw [callText_eq]
  split
  · cases aliased with
    | true => exact (hname.append hrows).parenthesize
    | false => exact hname.append hrows
  · split
    · exact hname.append hrows
    · exact hname.append htexts.parenthesize

theorem Expression.safe_callText {name : String} (hname : Neutral name) (aliased : Bool)
    {ms : List (Marked (Expression Assembled))} (hms : ∀ m ∈ ms, Safe (.expression config) m)
    (hrows : ∀ m ∈ ms, Safe (.row config) m) :
    Safe (.single (fun es => ∀ e ∈ es, e.Complete) fun es =>
      callText name es (es.map (literalText config)) aliased) (.list ms) := by
  have hname' : Keeps (List.map (name ++ ·)) :=
    .map (fun ht => hname.append ht) fun ht => ht.prepend hname
  have hcommas : Keeps fun texts => [commaSeparated texts] :=
    .intercalate (by decide : Neutral ", ")
  have hrows := Safe.list hrows
  -- The layout follows the name and the number of arguments, which strings do not change.
  by_cases hvalues : isValuesName name = true
  · refine (hrows.through (((Keeps.parenthesizeIf aliased).comp hname').comp hcommas)).of_eq
      (fun es => Iff.rfl) fun es => ?_
    simp only [Reading.row, Reading.texts_single, Reading.texts_through,
      Reading.texts_each_single, callText_eq, if_pos hvalues, Function.comp, List.map_singleton]
  · by_cases hlength : ms.length = 1
    · refine (hrows.through (hname'.comp hcommas)).congr
        ((Marked.always_length_list ms).mono fun es hes => ⟨Iff.rfl, fun _ => ?_⟩)
      simp only [Reading.row, Reading.texts_single, Reading.texts_through,
        Reading.texts_each_single, callText_eq, if_neg hvalues, if_pos (hes.trans hlength),
        Function.comp, List.map_singleton]
    · refine ((Safe.list hms).through ((hname'.comp Keeps.parenthesize).comp hcommas)).congr
        ((Marked.always_length_list ms).mono fun es hes => ⟨Iff.rfl, fun _ => ?_⟩)
      have hes' : ¬es.length = 1 := hes ▸ hlength
      simp only [Reading.expression, Reading.texts_single, Reading.texts_through,
        Reading.texts_each_single, callText_eq, if_neg hvalues, if_neg hes', Function.comp,
        List.map_singleton]

/-! ## All expressions -/

section Subqueries

variable {f : σ → Marked Assembled}

theorem Expression.markedAll_eq (es : List (Expression σ)) :
    Expression.markedAll config f es = .list (es.map (Expression.marked config f)) := by
  induction es with
  | nil => rfl
  | cons e rest ih => rw [markedAll, ih, List.map_cons, Marked.list]

/-- Whether the text of an expression is one pair of parentheses does not depend on
strings. -/
theorem Expression.always_isSelfParenthesized (e : Expression σ) :
    (e.marked config f).Always fun e' => e'.isSelfParenthesized = e.isSelfParenthesized := by
  cases e with
  | text content style suffix =>
      cases style with
      | stringConstant => exact ⟨rfl, fun p hp s => by rw [List.mem_singleton.mp hp]; rfl⟩
      | raw | dollarString _ | column _ | field => exact ⟨rfl, List.forall_mem_nil _⟩
  | value _ _ | list _ _ | array _ _ | call _ _ _ | nested _ _ =>
      rw [marked, Marked.always_withRaw, Marked.always_map]
      exact .of_forall (fun _ => rfl) _

variable {config}

/-- A subquery as an expression. -/
theorem Expression.safe_nested {m : Marked Assembled} (h : Safe (.assembled config) m)
    {suffix : Suffix} (hraw : ∀ t ∈ suffix.raw, Neutral t) :
    Safe ((Reading.expression config).comap (.nested · suffix)) m := by
  refine (h.through ((Suffix.keeps_attach hraw).comp Keeps.parenthesize)).of_eq
    (fun a => Iff.rfl) fun a => ?_
  exact congrArg ([·]) (Expression.literalText_nested config a suffix)

/-- A list as an expression. -/
theorem Expression.safe_list {ms : List (Marked (Expression Assembled))}
    (h : ∀ m ∈ ms, Safe (.expression config) m) {suffix : Suffix}
    (hraw : ∀ t ∈ suffix.raw, Neutral t) :
    Safe ((Reading.expression config).comap (.list · suffix)) (.list ms) := by
  have hchange := ((Suffix.keeps_attach hraw).comp Keeps.parenthesize).comp
    (Keeps.intercalate (by decide : Neutral ", "))
  refine ((Safe.list h).through hchange).of_eq
    (fun es => Expression.completeAll_iff es) fun es => ?_
  simp only [Reading.expression, Reading.texts_through, Reading.texts_each_single]
  exact congrArg ([·]) (Expression.literalText_list config es suffix)

theorem Safe.row {e : Expression σ} (h : Safe (.expression config) (e.marked config f)) :
    Safe (.row config) (e.marked config f) := by
  refine (h.through (Keeps.parenthesizeIf !e.isSelfParenthesized)).congr
    ((e.always_isSelfParenthesized config).mono fun e' he' => ⟨Iff.rfl, fun _ => ?_⟩)
  cases he : e.isSelfParenthesized <;>
    simp [Reading.row, Reading.expression, Expression.rowText, he', he]

mutual

/-- If the strings of its subqueries have safe places, those of the expression have. -/
theorem Expression.safe (hf : ∀ i, Safe (.assembled config) (f i)) : ∀ e : Expression σ,
    Safe (.expression config) (e.marked config f)
  | .text content style suffix => .withRaw fun h => style.safe config content h
  | .value v suffix => .withRaw fun h => by
      refine (v.safe.through (Suffix.keeps_attach h)).mapEq (fun v => ?_) fun v => ?_
      · exact iff_of_true (Expression.complete_value v suffix) trivial
      · exact congrArg ([·]) (Expression.literalText_value config v suffix)
  | .list es suffix => .withRaw fun h => by
      rw [Expression.markedAll_eq]
      exact .map (Expression.safe_list (Expression.safeAll hf es) h)
  | .array es suffix => .withRaw fun h => by
      have hchange := (Suffix.keeps_attach h).comp Keeps.arrayLiteral
      rw [Expression.markedAll_eq]
      refine ((Safe.list (Expression.safeAll hf es)).through hchange).mapEq
        (fun es => Expression.completeAll_iff es) fun es => ?_
      simp only [Reading.expression, Reading.texts_single, Reading.texts_through,
        Reading.texts_each_single]
      exact congrArg ([·]) (Expression.literalText_array config es suffix)
  | .call name arguments suffix => .withRaw fun h => by
      obtain ⟨hname, hsuffix⟩ := List.forall_mem_cons.mp h
      have harguments := Expression.safeAll hf arguments
      have hrows : ∀ m ∈ arguments.map (Expression.marked config f), Safe (.row config) m := by
        refine List.forall_mem_map.mpr fun e he => ?_
        exact (List.forall_mem_map.mp harguments e he).row
      have hcall := Expression.safe_callText config hname suffix.aliased.isSome harguments hrows
      rw [Expression.markedAll_eq]
      refine (hcall.through (Suffix.keeps_attach hsuffix)).mapEq
        (fun es => Expression.completeAll_iff es) fun es => ?_
      exact congrArg ([·]) (Expression.literalText_call config name es suffix)
  | .nested statement _ => .withRaw fun h => .map (Expression.safe_nested (hf statement) h)

theorem Expression.safeAll (hf : ∀ i, Safe (.assembled config) (f i)) :
    ∀ es : List (Expression σ), ∀ m ∈ es.map (Expression.marked config f),
      Safe (.expression config) m
  | [] => List.forall_mem_nil _
  | e :: rest => List.forall_mem_cons.mpr ⟨e.safe hf, Expression.safeAll hf rest⟩

end

end Subqueries

end Expressions

end SqlBuilder
