import SqlBuilder.Text.Quoted

/-!
# Reading quoted text

The reader starts behind the quote that opens a text. Of two quotes it makes one, and it
stops behind the first that stands alone. So it gets back what was quoted and leaves what
follows, as long as this does not begin with one more quote (`Quoted.read_double`); and
it reads nothing else (`Quoted.eq_of_read`).
-/

namespace SqlBuilder

namespace Quoted

/-- The text up to the quote that closes it, and what follows; nothing if no quote
closes it. -/
def read (quote : Char) : List Char → Option (List Char × List Char)
  | [] => none
  | [c] => if c = quote then some ([], []) else none
  | c :: d :: rest =>
      if c = quote then
        if d = quote then (read quote rest).map (Prod.map (quote :: ·) id)
        else some ([], d :: rest)
      else (read quote (d :: rest)).map (Prod.map (c :: ·) id)

theorem read_closing {quote : Char} {rest : List Char} (h : quote ∉ rest.head?) :
    read quote (quote :: rest) = some ([], rest) := by
  cases rest with
  | nil => simp [read]
  | cons d rest =>
      have hd : d ≠ quote := by simpa using h
      simp [read, hd]

theorem read_cons {quote c : Char} (h : c ≠ quote) (rest : List Char) :
    read quote (c :: rest) = (read quote rest).map (Prod.map (c :: ·) id) := by
  cases rest with
  | nil => simp [read, h]
  | cons d rest => simp [read, h]

/-- A quoted text reads back, and the reader stops where the text does. -/
theorem read_double {quote : Char} (text : List Char) {rest : List Char}
    (h : quote ∉ rest.head?) :
    read quote (double quote text ++ quote :: rest) = some (text, rest) := by
  induction text with
  | nil => exact read_closing h
  | cons c text ih =>
      by_cases hc : c = quote
      · subst hc
        simp [double, read, ih]
      · simp [double, hc, read_cons hc, ih]

/-- Only quoted texts are read. -/
theorem eq_of_read {quote : Char} {cs text rest : List Char}
    (h : read quote cs = some (text, rest)) : cs = double quote text ++ quote :: rest := by
  fun_induction read quote cs generalizing text rest with
  | case1 => cases h
  | case2 =>
      cases h
      rfl
  | case3 c hc => cases h
  | case4 rest' ih =>
      obtain ⟨⟨text', rest''⟩, hread, heq⟩ := Option.map_eq_some_iff.mp h
      cases heq
      simp [double, ← ih hread]
  | case5 d rest' hd =>
      cases h
      rfl
  | case6 c d rest' hc ih =>
      obtain ⟨⟨text', rest''⟩, hread, heq⟩ := Option.map_eq_some_iff.mp h
      cases heq
      simp [double, hc, ← ih hread]

end Quoted

end SqlBuilder
