import Mathlib.Data.List.Infix
import SqlBuilder.Proofs.Quoting.Names

/-!
# Reading text between dollar signs

A text between dollar signs has no escapes: it is opened by a tag between two dollar
signs, and the same delimiter closes it where it occurs next. The reader finds the tag
by itself and stops behind the first occurrence (`DollarQuote.upTo`).

So a text is read back just if its delimiter does not occur before the end of the text.
An occurrence may also begin in the text and end with the first dollar sign of the
delimiter behind it, but no further, since a tag has no dollar sign inside
(`DollarQuote.infix_closed_iff`). Otherwise the constant ends early, and what is left of
the text is read as SQL (`dollar_strings_read_back_iff`).
-/

namespace SqlBuilder

namespace DollarQuote

/-! ## The reader -/

/-- What stands on both sides of a text. -/
def delimiter (tag : List Char) : List Char := '$' :: (tag ++ ['$'])

/-- A letter of ASCII, an underscore, or any character beyond ASCII. -/
def startsTag (c : Char) : Bool := c.isAlpha || c == '_' || 128 ≤ c.toNat

/-- A tag is empty or an identifier without dollar signs. -/
def isTag : List Char → Bool
  | [] => true
  | c :: rest => startsTag c && rest.all fun c => startsTag c || c.isDigit

/-- The text in front of the first occurrence of a mark, and what follows the mark. -/
def upTo (mark : List Char) : List Char → Option (List Char × List Char)
  | [] => if mark <+: [] then some ([], []) else none
  | c :: rest =>
      if mark <+: c :: rest then some ([], (c :: rest).drop mark.length)
      else (upTo mark rest).map (Prod.map (c :: ·) id)

/-- The text of a constant, and what follows it; nothing if no tag opens it, or if it is
not closed. -/
def read : List Char → Option (List Char × List Char)
  | '$' :: rest =>
      let tag := rest.takeWhile (· != '$')
      if isTag tag ∧ '$' ∈ rest then upTo (delimiter tag) (rest.drop (tag.length + 1)) else none
  | _ => none

/-! ## The first occurrence of a mark -/

section UpTo

variable {mark cs shown behind : List Char}

theorem eq_of_upTo (h : upTo mark cs = some (shown, behind)) : cs = shown ++ (mark ++ behind) := by
  induction cs generalizing shown with
  | nil =>
      unfold upTo at h
      split at h
      · rename_i hmark
        cases h
        rw [List.prefix_nil.mp hmark]
        rfl
      · cases h
  | cons c rest ih =>
      unfold upTo at h
      split at h
      · rename_i hmark
        cases h
        rw [List.nil_append, ← List.prefix_iff_eq_append.mp hmark]
        simp
      · obtain ⟨⟨shown', behind'⟩, hrest, heq⟩ := Option.map_eq_some_iff.mp h
        cases heq
        rw [ih hrest]
        rfl

/-- A mark that occurs somewhere is found. -/
theorem exists_upTo (h : mark <:+: cs) : ∃ shown behind, upTo mark cs = some (shown, behind) := by
  induction cs with
  | nil =>
      rw [List.infix_nil] at h
      exact ⟨[], [], if_pos (List.prefix_nil.mpr h)⟩
  | cons c rest ih =>
      unfold upTo
      split
      · exact ⟨_, _, rfl⟩
      · rename_i hmark
        obtain ⟨shown, behind, hrest⟩ := ih ((List.infix_cons_iff.mp h).resolve_left hmark)
        rw [hrest]
        exact ⟨_, _, rfl⟩

theorem exists_upTo_append (mark text rest : List Char) :
    ∃ shown behind, upTo mark (text ++ (mark ++ rest)) = some (shown, behind) :=
  exists_upTo ⟨text, rest, by simp⟩

/-- The mark occurs in the text that is shown and the mark behind it only at the end. -/
theorem not_infix_of_upTo (hmark : mark ≠ []) (h : upTo mark cs = some (shown, behind)) :
    ¬mark <:+: shown ++ mark.dropLast := by
  have hshort : mark.dropLast.length < mark.length := by
    have := List.length_pos_iff.mpr hmark
    rw [List.length_dropLast]
    omega
  have hnothing : ¬mark <:+: [] ++ mark.dropLast := fun hoccurs =>
    absurd hoccurs.length_le (Nat.not_le.mpr hshort)
  induction cs generalizing shown with
  | nil =>
      obtain ⟨hnil, -⟩ := List.append_eq_nil_iff.mp (eq_of_upTo h).symm
      exact hnil ▸ hnothing
  | cons c rest ih =>
      have heq := eq_of_upTo h
      unfold upTo at h
      split at h
      · cases h
        exact hnothing
      · rename_i hstart
        obtain ⟨⟨shown', behind'⟩, hrest, hcons⟩ := Option.map_eq_some_iff.mp h
        cases hcons
        show ¬mark <:+: c :: (shown' ++ mark.dropLast)
        rw [List.infix_cons_iff]
        rintro (hbegins | hoccurs)
        · refine hstart (hbegins.trans ?_)
          rw [heq]
          have hmore : mark.dropLast <+: mark ++ behind' :=
            (List.dropLast_prefix mark).trans (List.prefix_append ..)
          exact (List.prefix_append_right_inj (c :: shown')).mpr hmore
        · exact ih hrest hoccurs

/-- Of two ways to divide a text by a mark, the one with the shorter text shows that the
mark occurs in the longer one before its end. -/
theorem infix_of_length_lt {text rest : List Char} (hmark : mark ≠ [])
    (heq : text ++ (mark ++ rest) = shown ++ (mark ++ behind))
    (hlt : text.length < shown.length) : mark <:+: shown ++ mark.dropLast := by
  have hearly : text ++ mark <+: shown ++ (mark ++ behind) := by
    rw [← heq, ← List.append_assoc]
    exact List.prefix_append ..
  have hlate : shown ++ mark.dropLast <+: shown ++ (mark ++ behind) :=
    (List.prefix_append_right_inj shown).mpr
      ((List.dropLast_prefix mark).trans (List.prefix_append ..))
  have hlength : (text ++ mark).length ≤ (shown ++ mark.dropLast).length := by
    have := List.length_pos_iff.mpr hmark
    simp only [List.length_append, List.length_dropLast]
    omega
  have hbegins := List.prefix_of_prefix_length_le hearly hlate hlength
  exact (List.suffix_append text mark).isInfix.trans hbegins.isInfix

theorem upTo_eq_iff (hmark : mark ≠ []) (text rest : List Char) :
    upTo mark (text ++ (mark ++ rest)) = some (text, rest) ↔ ¬mark <:+: text ++ mark.dropLast := by
  refine ⟨not_infix_of_upTo hmark, fun hfirst => ?_⟩
  obtain ⟨shown, behind, hfound⟩ := exists_upTo_append mark text rest
  have heq := eq_of_upTo hfound
  rcases Nat.lt_trichotomy text.length shown.length with hlt | hlength | hlt
  · exact absurd (infix_of_length_lt hmark heq hlt) (not_infix_of_upTo hmark hfound)
  · obtain ⟨rfl, hbehind⟩ := List.append_inj heq hlength
    rw [hfound, List.append_cancel_left hbehind]
  · exact absurd (infix_of_length_lt hmark heq.symm hlt) hfirst

/-- A text in which the mark occurs is shown in part only. -/
theorem upTo_of_infix (hmark : mark ≠ []) {text : List Char}
    (hoccurs : mark <:+: text ++ mark.dropLast) (rest : List Char) :
    ∃ shown behind, upTo mark (text ++ (mark ++ rest)) = some (shown, behind)
      ∧ shown <+: text ∧ shown ≠ text ∧ behind ≠ [] := by
  obtain ⟨shown, behind, hfound⟩ := exists_upTo_append mark text rest
  have heq := eq_of_upTo hfound
  have hfirst := not_infix_of_upTo hmark hfound
  have hlt : shown.length < text.length := by
    rcases Nat.lt_trichotomy text.length shown.length with hlt | hlength | hlt
    · exact absurd (infix_of_length_lt hmark heq hlt) hfirst
    · obtain ⟨rfl, -⟩ := List.append_inj heq hlength
      exact absurd hoccurs hfirst
    · exact hlt
  have hread : shown <+: text ++ (mark ++ rest) := by
    rw [heq]
    exact List.prefix_append ..
  have hbegins : shown <+: text :=
    List.prefix_of_prefix_length_le hread (List.prefix_append ..) hlt.le
  refine ⟨shown, behind, hfound, hbegins, fun hall => ?_, fun hnone => ?_⟩
  · exact absurd (congrArg List.length hall) (Nat.ne_of_lt hlt)
  · have := congrArg List.length heq
    simp only [hnone, List.length_append, List.length_nil] at this
    omega

end UpTo

/-! ## Delimiters -/

section Delimiters

variable {tag : List Char}

theorem dollar_notMem_of_isTag (h : isTag tag) : '$' ∉ tag := by
  have hdollar : startsTag '$' = false := by decide
  have hdigit : '$'.isDigit = false := by decide
  cases tag with
  | nil => exact List.not_mem_nil
  | cons c rest =>
      obtain ⟨hc, hrest⟩ := (Bool.and_eq_true ..).mp h
      rw [List.mem_cons, not_or]
      refine ⟨fun heq => ?_, fun hmem => ?_⟩
      · simp [← heq, hdollar] at hc
      · have := List.all_eq_true.mp hrest '$' hmem
        simp [hdollar, hdigit] at this

theorem read_delimiter (h : isTag tag) (cs : List Char) :
    read (delimiter tag ++ cs) = upTo (delimiter tag) cs := by
  have hplain : ∀ c ∈ tag, (c != '$') = true := by
    intro c hc
    rw [bne_iff_ne]
    rintro rfl
    exact dollar_notMem_of_isTag h hc
  have htag : (tag ++ '$' :: cs).takeWhile (· != '$') = tag := by
    rw [List.takeWhile_append_of_pos hplain, List.takeWhile_cons_of_neg (by simp),
      List.append_nil]
  have hshape : delimiter tag ++ cs = '$' :: (tag ++ '$' :: cs) := by simp [delimiter]
  rw [hshape, read, htag, if_pos ⟨h, by simp⟩]
  simp

/-- An occurrence of a delimiter that begins in a text goes no further behind it than to
the first dollar sign. -/
theorem infix_closed_iff (htag : '$' ∉ tag) (text : List Char) :
    delimiter tag <:+: text ++ (delimiter tag).dropLast
      ↔ delimiter tag <:+: text ++ ['$'] := by
  have hlast : (delimiter tag).dropLast = '$' :: tag := by
    rw [delimiter, ← List.cons_append, List.dropLast_concat]
  rw [hlast]
  constructor
  · rintro ⟨before, behind, heq⟩
    have hends : (before ++ '$' :: tag) ++ '$' :: behind = text ++ '$' :: tag := by
      rw [← heq]
      simp [delimiter]
    rcases List.append_eq_append_iff.mp hends
      with ⟨beyond, htext, hbeyond⟩ | ⟨beyond, hbefore, hbeyond⟩
    · -- The last dollar sign of the occurrence is in the text, or the one behind it.
      cases beyond with
      | nil =>
          refine ⟨before, [], ?_⟩
          rw [htext]
          simp [delimiter]
      | cons c beyond =>
          obtain ⟨rfl, -⟩ := List.cons.inj hbeyond
          refine ⟨before, beyond ++ ['$'], ?_⟩
          rw [htext]
          simp [delimiter]
    · -- Further behind it would be in the tag.
      cases beyond with
      | nil =>
          refine ⟨before, [], ?_⟩
          rw [← List.append_nil text, ← hbefore]
          simp [delimiter]
      | cons c beyond =>
          obtain ⟨-, htail⟩ := List.cons.inj hbeyond
          refine absurd ?_ htag
          rw [htail]
          exact List.mem_append_right _ (List.mem_cons_self ..)
  · intro hoccurs
    refine hoccurs.trans (List.IsPrefix.isInfix ?_)
    exact (List.prefix_append_right_inj text).mpr (List.prefix_append ['$'] tag)

end Delimiters

end DollarQuote

/-! ## Rendering -/

theorem TextStyle.toList_layout_dollarString (config : RenderConfig) (text tag : String) :
    (TextStyle.layout config text (.dollarString tag)).toList
      = DollarQuote.delimiter tag.toList ++ (text.toList ++ DollarQuote.delimiter tag.toList) := by
  simp [TextStyle.layout, DollarQuote.delimiter]

/-- A text between dollar signs, rendered in whatever mode, is read back with nothing
left over if and only if its delimiter occurs neither in the text nor at the seam of the
text and the dollar sign behind it; and this is so whatever follows the constant. If the
delimiter does occur, the reader shows only a part of the text, and the rest of it stands
behind the constant. -/
theorem dollar_strings_read_back_iff (text tag : String) (htag : DollarQuote.isTag tag.toList)
    (f : Formatter) :
    let closes := DollarQuote.delimiter tag.toList <:+: text.toList ++ ['$']
    ∃ sql, (f.run ((Expression.dollarString text tag).render ·)).1 = .ok sql
      ∧ (DollarQuote.read sql.toList = some (text.toList, []) ↔ ¬closes)
      ∧ (¬closes → ∀ rest, DollarQuote.read (sql.toList ++ rest) = some (text.toList, rest))
      ∧ (closes → ∃ shown behind, DollarQuote.read sql.toList = some (shown, behind)
          ∧ shown <+: text.toList ∧ shown ≠ text.toList ∧ behind ≠ []) := by
  intro closes
  let mark := DollarQuote.delimiter tag.toList
  have hmark : mark ≠ [] := List.cons_ne_nil _ _
  have hcloses : mark <:+: text.toList ++ mark.dropLast ↔ closes :=
    DollarQuote.infix_closed_iff (DollarQuote.dollar_notMem_of_isTag htag) text.toList
  let sql := TextStyle.layout f.style.config text (.dollarString tag)
  have hread (rest : List Char) :
      DollarQuote.read (sql.toList ++ rest)
        = DollarQuote.upTo mark (text.toList ++ (mark ++ rest)) := by
    rw [TextStyle.toList_layout_dollarString, List.append_assoc, DollarQuote.read_delimiter htag,
      List.append_assoc]
  have hwhole :
      DollarQuote.read sql.toList = DollarQuote.upTo mark (text.toList ++ (mark ++ [])) := by
    rw [← hread, List.append_nil]
  refine ⟨sql, f.run_text text (.dollarString tag), ?_, fun hnot rest => ?_, fun hoccurs => ?_⟩
  · rw [hwhole, DollarQuote.upTo_eq_iff hmark, hcloses]
  · rw [hread, DollarQuote.upTo_eq_iff hmark, hcloses]
    exact hnot
  · rw [hwhole]
    exact DollarQuote.upTo_of_infix hmark (hcloses.mpr hoccurs) []

/-- Dollar signs and the tag stand in the text, but never as the delimiter. -/
theorem dollar_strings_read_back_iff_near :
    DollarQuote.isTag "q".toList
      ∧ DollarQuote.read "$q$$$ $q ends: q$$q$, x".toList
        = some ("$$ $q ends: q$".toList, ", x".toList) := by
  have htag : DollarQuote.isTag "q".toList := by decide
  obtain ⟨sql, hsql, -, hread, -⟩ :=
    dollar_strings_read_back_iff "$$ $q ends: q$" "q" htag (.new .literal)
  have hliteral : sql = "$q$$$ $q ends: q$$q$" := Except.ok.inj (hsql.symm.trans rfl)
  subst hliteral
  exact ⟨htag, hread (by decide) ", x".toList⟩

/-- A text that holds the delimiter ends the constant and goes on as SQL. So does one
that ends with all of the delimiter but its last dollar sign. -/
theorem dollar_string_ends_early :
    let written (text tag : String) : Except BuilderError String :=
      ((Formatter.new .literal).run ((Expression.dollarString text tag).render ·)).1
    DollarQuote.isTag "".toList ∧ DollarQuote.isTag "fn".toList
      ∧ written "$$; DROP TABLE users; --" "" = .ok "$$$$; DROP TABLE users; --$$"
      ∧ DollarQuote.read "$$$$; DROP TABLE users; --$$".toList
        = some ([], "; DROP TABLE users; --$$".toList)
      ∧ written "a$fn" "fn" = .ok "$fn$a$fn$fn$"
      ∧ DollarQuote.read "$fn$a$fn$fn$".toList = some ("a".toList, "fn$".toList) :=
  ⟨by decide, by decide, rfl, by decide, rfl, by decide⟩

end SqlBuilder
