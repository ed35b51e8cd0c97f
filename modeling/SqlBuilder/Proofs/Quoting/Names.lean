import SqlBuilder.Formatter
import SqlBuilder.Proofs.Quoting.Reader
import SqlBuilder.Proofs.Scanning.Scanner

/-!
# Quoted names read back

A quoted name is read as identifiers with dots in between, where an identifier is quoted
or a lone star. The reader gets back the segments of the name, whatever characters they
are made of (`quoted_names_read_back`). A quote inside a segment is written twice, so a
quote that stands alone closes the identifier, and a dot behind it separates.
-/

namespace SqlBuilder

namespace QualifiedName

/-! ## The reader -/

/-- One identifier, and what follows it. -/
def readSegment : List Char → Option (List Char × List Char)
  | '"' :: rest => Quoted.read '"' rest
  | '*' :: rest => some (['*'], rest)
  | _ => none

theorem length_of_readSegment {cs segment rest : List Char}
    (h : readSegment cs = some (segment, rest)) : rest.length < cs.length := by
  unfold readSegment at h
  split at h
  · rw [Quoted.eq_of_read h]
    simp
    omega
  · cases h
    simp
  · cases h

/-- The identifiers of a name, and what follows the last of them. Behind a dot there is
one more identifier, or it is no name. -/
def read (cs : List Char) : Option (List (List Char) × List Char) :=
  match _h : readSegment cs with
  | none => none
  | some (segment, '.' :: rest) => (read rest).map (Prod.map (segment :: ·) id)
  | some (segment, rest) => some ([segment], rest)
termination_by cs.length
decreasing_by
  have := length_of_readSegment ‹_›
  simp only [List.length_cons] at this
  omega

theorem read_last {cs segment rest : List Char} (h : readSegment cs = some (segment, rest))
    (hdot : '.' ∉ rest.head?) : read cs = some ([segment], rest) := by
  unfold read
  split
  · simp_all
  · rename_i heq
    rw [h] at heq
    cases heq
    simp at hdot
  · rename_i heq
    rw [h] at heq
    cases heq
    rfl

theorem read_dot {cs segment rest : List Char} (h : readSegment cs = some (segment, '.' :: rest)) :
    read cs = (read rest).map (Prod.map (segment :: ·) id) := by
  rw [read]
  split
  · rename_i heq
    rw [h] at heq
    cases heq
  · rename_i heq
    rw [h] at heq
    cases heq
    rfl
  · rename_i hno heq
    rw [h] at heq
    cases heq
    exact absurd rfl (hno _)

theorem readSegment_text (segment : List Char) {rest : List Char} (h : '"' ∉ rest.head?) :
    readSegment ((segmentText true segment).toList ++ rest) = some (segment, rest) := by
  unfold segmentText
  by_cases hstar : segment = ['*']
  · subst hstar
    rfl
  · simp [hstar, quotedIdentifier, quoted, readSegment, Quoted.read_double segment h]

/-- Any segments at all read back, with or without dots inside. -/
theorem read_intercalate (segment : List Char) (others : List (List Char)) {rest : List Char}
    (hquote : '"' ∉ rest.head?) (hdot : '.' ∉ rest.head?) :
    read ((".".intercalate ((segment :: others).map (segmentText true))).toList ++ rest)
      = some (segment :: others, rest) := by
  induction others generalizing segment with
  | nil =>
      rw [List.map_cons, List.map_nil, String.intercalate_singleton]
      exact read_last (readSegment_text segment hquote) hdot
  | cons second others ih =>
      have hdots : ((".".intercalate ((segment :: second :: others).map (segmentText true))).toList
            ++ rest)
          = (segmentText true segment).toList ++ '.'
              :: ((".".intercalate ((second :: others).map (segmentText true))).toList ++ rest) := by
        simp [String.intercalate_cons_cons]
      rw [hdots, read_dot (readSegment_text segment (by simp)), ih]
      rfl

/-- The segments of a name are what its dots separate. -/
theorem segments_eq_splitOn (cs : List Char) : segments cs = cs.splitOn '.' := by
  induction cs with
  | nil => rfl
  | cons c rest ih =>
      have hsplit : (c :: rest).splitOn '.' = if c = '.' then [] :: rest.splitOn '.'
          else (rest.splitOn '.').modifyHead (List.cons c) := by
        simp [List.splitOn, List.splitOnP_cons_eq_if_modifyHead]
      obtain ⟨first, others, hrest⟩ := List.exists_cons_of_ne_nil (segments_ne_nil rest)
      rw [hsplit, ← ih, segments, hrest]
      rfl

/-- A quoted name reads back as its segments, and the reader stops where the name does. -/
theorem read_text (name : String) {rest : List Char} (hquote : '"' ∉ rest.head?)
    (hdot : '.' ∉ rest.head?) :
    read ((text true name).toList ++ rest) = some (name.toList.splitOn '.', rest) := by
  obtain ⟨first, others, hname⟩ := List.exists_cons_of_ne_nil (segments_ne_nil name.toList)
  rw [text, hname, read_intercalate first others hquote hdot, ← segments_eq_splitOn, hname]

/-- So a quoted name is read to its end. -/
theorem read_text_nil (name : String) :
    read (text true name).toList = some (name.toList.splitOn '.', []) := by
  rw [← List.append_nil (text true name).toList]
  exact read_text name (by simp) (by simp)

theorem eq_of_text_eq {name other : String} (h : text true other = text true name) :
    other = name := by
  have hread := read_text_nil other
  rw [h, read_text_nil name, Option.some.injEq, Prod.mk.injEq] at hread
  have hname (s : String) : ['.'].intercalate (s.toList.splitOn '.') = s.toList :=
    List.intercalate_splitOn '.'
  rw [← String.toList_inj, ← hname other, ← hread.1, hname]

end QualifiedName

/-! ## Rendering -/

theorem Formatter.run_text (f : Formatter) (content : String) (style : TextStyle) :
    (f.run ((Expression.text content style).render ·)).1
      = .ok (style.layout f.style.config content) := by
  rw [← Suffix.attach_empty (style.layout f.style.config content)]
  rfl

/-- In every mode, a name that is quoted, by itself or by the configuration, is rendered
to a text that reads back as the segments between its dots. The reader consumes the whole
text, and whatever is written behind it, none of that is read as part of the name.
Different names have different texts. A name that is not quoted is rendered as it is. -/
theorem quoted_names_read_back (name : String) (f : Formatter) :
    (f.run ((Expression.quotedColumn name).render ·)).1 = .ok (QualifiedName.text true name)
      ∧ (f.run ((Expression.column name).render ·)).1
          = .ok (if f.style.config.quoteIdentifiers then QualifiedName.text true name else name)
      ∧ QualifiedName.read (QualifiedName.text true name).toList
          = some (name.toList.splitOn '.', [])
      ∧ (∀ rest : List Char, '"' ∉ rest.head? → '.' ∉ rest.head? →
          QualifiedName.read ((QualifiedName.text true name).toList ++ rest)
            = some (name.toList.splitOn '.', rest))
      ∧ (∀ other, QualifiedName.text true other = QualifiedName.text true name → other = name)
      ∧ (f.run ((Expression.unquotedColumn name).render ·)).1 = .ok name
      ∧ (f.run ((Expression.field name).render ·)).1 = .ok name := by
  have hunquoted := QualifiedName.text_unquoted name
  refine ⟨f.run_text name _, ?_, QualifiedName.read_text_nil name,
    fun rest hquote hdot => QualifiedName.read_text name hquote hdot,
    fun other h => QualifiedName.eq_of_text_eq h, ?_, ?_⟩
  · refine (f.run_text name (.column none)).trans (congrArg Except.ok ?_)
    cases hconfig : f.style.config.quoteIdentifiers with
    | true => simp [TextStyle.layout, hconfig]
    | false => simp [TextStyle.layout, hconfig, hunquoted]
  · exact (f.run_text name (.column (some false))).trans (congrArg Except.ok hunquoted)
  · exact (f.run_text name .field).trans (congrArg Except.ok hunquoted)

/-- Quotes next to dots, an empty segment and a star, in front of a comma. -/
theorem quoted_names_read_back_quotes :
    QualifiedName.text true "\"a.b\"..*" = "\"\"\"a\".\"b\"\"\".\"\".*"
      ∧ QualifiedName.read "\"\"\"a\".\"b\"\"\".\"\".*, c".toList
          = some (["\"a", "b\"", "", "*"].map String.toList, ", c".toList) := by
  have htext : QualifiedName.text true "\"a.b\"..*" = "\"\"\"a\".\"b\"\"\".\"\".*" := by decide
  obtain ⟨-, -, -, hread, -⟩ := quoted_names_read_back "\"a.b\"..*" (.new .literal)
  rw [htext] at hread
  exact ⟨htext, hread ", c".toList (by decide) (by decide)⟩

end SqlBuilder
