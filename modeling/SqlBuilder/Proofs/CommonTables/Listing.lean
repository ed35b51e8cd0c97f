import Mathlib.Algebra.Order.BigOperators.Group.List
import Mathlib.Algebra.Order.Group.Nat
import Mathlib.Algebra.Ring.Nat
import SqlBuilder.Proofs.Scanning.Containment

/-!
# How named statements are listed

A WITH statement is written as its keyword, the named statements with commas between
them, and the body (`Builder.literalText_with`). Each named statement starts with its
header, and a header with columns is written like a call. A call of `VALUES` is a list
of rows, so a table of that name has each of its columns written as a row,
`values(a), (b)`, where a column list would be `values(a, b)`. The text is the one with
a column list in every header exactly if no table of that name has more than one
column (`common_tables_listed_iff`).
-/

namespace SqlBuilder

open Expression (isValuesName)

theorem joinedItems_of_forall_ne_empty (delimiter : String) {items : List String}
    (hitems : items ≠ []) (hshow : ∀ item ∈ items, item ≠ "") :
    joinedItems delimiter items = [delimiter.intercalate items] := by
  unfold joinedItems
  rw [List.filter_eq_self.mpr fun item hitem => bne_iff_ne.mpr (hshow item hitem)]
  obtain ⟨first, rest, rfl⟩ := List.exists_cons_of_ne_nil hitems
  rfl

theorem joinedItems_singleton (delimiter : String) {item : String} (hshow : item ≠ "") :
    joinedItems delimiter [item] = [item] := by
  simp [joinedItems, hshow]

/-! ## Headers -/

namespace Expression

variable (config : RenderConfig)

theorem literalText_raw (text : String) : literalText config (.raw text) = text := by
  simp [raw, literalText_text, TextStyle.layout]

theorem literalText_call_raw (name : String) (columns : List String) :
    literalText config (.call name (columns.map .raw))
      = if isValuesName name ∨ columns.length = 1
        then name ++ commaSeparated (columns.map parenthesize)
        else name ++ parenthesize (commaSeparated columns) := by
  have hrow (text : String) : (raw text : Expression Assembled).rowText text
      = parenthesize text := rfl
  rw [literalText_call, callText_eq]
  by_cases hvalues : isValuesName name = true <;> by_cases hlength : columns.length = 1 <;>
    simp [hvalues, hlength, literalText_raw, hrow, Function.comp_def]

end Expression

namespace CommonTableExpression

section Headers

variable {σ : Type} (c : CommonTableExpression σ)

/-- The name, with all columns in one pair of parentheses if there are any. -/
def listedHeader : String :=
  if c.columns.isEmpty then c.name else c.name ++ parenthesize (commaSeparated c.columns)

/-- The name, with parentheses around each column. -/
def rowsHeader : String := c.name ++ commaSeparated (c.columns.map parenthesize)

/-- Whether the columns are written as rows. A single column looks the same either
way. -/
def ColumnsAsRows : Prop := isValuesName c.name ∧ 1 < c.columns.length

instance : Decidable c.ColumnsAsRows := inferInstanceAs (Decidable (_ ∧ _))

def headerText : String := if c.ColumnsAsRows then c.rowsHeader else c.listedHeader

theorem rowsHeader_of_length_eq_one (h : c.columns.length = 1) :
    c.rowsHeader = c.listedHeader := by
  obtain ⟨column, hcolumn⟩ := List.length_eq_one_iff.mp h
  simp [rowsHeader, listedHeader, hcolumn, commaSeparated]

end Headers

variable (config : RenderConfig) (c : CommonTableExpression Assembled)

theorem literalText_header : c.header.literalText config = c.headerText := by
  by_cases hrows : c.ColumnsAsRows
  · obtain ⟨hvalues, hmany⟩ := hrows
    have hcolumns : ¬c.columns.isEmpty := fun h => by simp [List.isEmpty_iff.mp h] at hmany
    rw [header, if_neg hcolumns, Expression.literalText_call_raw, if_pos (Or.inl hvalues),
      headerText, if_pos ⟨hvalues, hmany⟩]
    rfl
  · rw [headerText, if_neg hrows, header]
    split
    case isTrue hnone => rw [Expression.literalText_raw, listedHeader, if_pos hnone]
    case isFalse hsome =>
      have hlisted : c.listedHeader = c.name ++ parenthesize (commaSeparated c.columns) :=
        if_neg hsome
      rw [Expression.literalText_call_raw]
      split
      case isTrue h =>
        have hone : c.columns.length = 1 := by
          have hpos : 0 < c.columns.length := List.length_pos_iff.mpr (by simpa using hsome)
          grind [ColumnsAsRows]
        exact c.rowsHeader_of_length_eq_one hone
      case isFalse => exact hlisted.symm

theorem headerText_ne_empty {σ : Type} {c : CommonTableExpression σ} (hname : c.name ≠ "") :
    c.headerText ≠ "" := by
  unfold headerText rowsHeader listedHeader
  split
  · simp [hname]
  · split <;> simp [hname]

theorem literalText_node (hname : c.name ≠ "") :
    c.node.literalText config
      = c.headerText ++ " AS " ++ parenthesize (c.statement.literalText config) := by
  have hheader : Token.literalText config (.expression c.header) = c.headerText :=
    c.literalText_header config
  have hstatement : Token.literalText config (.expression (.nested c.statement))
      = parenthesize (c.statement.literalText config) := by
    rw [Token.literalText_expression, Expression.literalText_nested, Suffix.attach_empty]
  have hshow : parenthesize (c.statement.literalText config) ≠ "" := by simp [parenthesize]
  rw [node, Predicate.operationNode, List.map_cons, Node.literalText_operator, hheader,
    joinedItems_singleton _ (headerText_ne_empty hname), List.map_singleton, List.map_singleton,
    hstatement, joinedItems_singleton _ hshow, ← String.toList_inj]
  simp [Keyword.as]

theorem complete_node : c.node.Complete ↔ c.statement.Complete := by
  have hheader : c.header.Complete := by
    unfold header
    split
    · rfl
    · refine (Expression.completeAll_iff _).mpr (List.forall_mem_map.mpr fun _ _ => rfl)
  rw [node, Predicate.operationNode, Node.complete_operator]
  refine (and_iff_left (List.forall_mem_nil _)).trans ?_
  rw [List.map_cons, List.forall_mem_cons]
  exact (and_iff_right hheader).trans List.forall_mem_singleton

end CommonTableExpression

/-! ## WITH statements -/

/-- The keyword, the named statements, and the body. -/
def With.text (isRecursive : Bool) (tables : List String) (body : String) : String :=
  (if isRecursive then Keyword.withRecursive else Keyword.with_) ++ " "
    ++ commaSeparated tables ++ " " ++ body

section Texts

variable {config : RenderConfig} {tables : List (CommonTableExpression Assembled)}

theorem With.literalText_joinedNode (keyword : String) (htables : tables ≠ [])
    (hnames : ∀ c ∈ tables, c.name ≠ "") :
    Node.literalText config
        (Clause.joinedNode keyword (tables.map CommonTableExpression.node))
      = keyword ++ " " ++ commaSeparated (tables.map fun c =>
          c.headerText ++ " AS " ++ parenthesize (c.statement.literalText config)) := by
  have hitems : (tables.map CommonTableExpression.node).map (Node.literalText config)
      = tables.map fun c =>
          c.headerText ++ " AS " ++ parenthesize (c.statement.literalText config) := by
    rw [List.map_map]
    exact List.map_congr_left fun c hc => c.literalText_node config (hnames c hc)
  rw [Node.literalText_joined, hitems, joinedItems_of_forall_ne_empty]
  · rfl
  · simpa using htables
  · simp [parenthesize]

theorem Builder.literalText_with (isRecursive : Bool) {body : Builder Assembled}
    (htables : tables ≠ []) (hnames : ∀ c ∈ tables, c.name ≠ "")
    (hbody : body.node.literalText config ≠ "") :
    (Builder.with_ isRecursive tables (some body)).node.literalText config
      = With.text isRecursive
          (tables.map fun c =>
            c.headerText ++ " AS " ++ parenthesize (c.statement.literalText config))
          (body.node.literalText config) := by
  have hnodes : With.expressionNodes { isRecursive, expressions := tables }
      = [Clause.joinedNode (if isRecursive then Keyword.withRecursive else Keyword.with_)
          (tables.map CommonTableExpression.node)] :=
    if_neg fun hempty => htables (List.isEmpty_iff.mp hempty)
  rw [Builder.node, hnodes]
  refine (Node.literalText_around _ _ _ config false).trans ?_
  rw [List.singleton_append, List.map_cons, List.map_singleton,
    With.literalText_joinedNode _ htables hnames]
  rw [List.filter_cons_of_pos (by simp), List.filter_cons_of_pos (by simpa using hbody)]
  simp [joinedItems, With.text]

theorem Builder.complete_with (isRecursive : Bool) {body : Builder Assembled} :
    (Builder.with_ isRecursive tables (some body)).node.Complete
      ↔ (∀ c ∈ tables, c.statement.Complete) ∧ body.node.Complete := by
  have hnodes : (∀ n ∈ With.expressionNodes { isRecursive, expressions := tables }, n.Complete)
      ↔ ∀ c ∈ tables, c.statement.Complete := by
    unfold With.expressionNodes
    split
    case isTrue hnone =>
      obtain rfl : tables = [] := List.isEmpty_iff.mp hnone
      exact iff_of_true (List.forall_mem_nil _) (List.forall_mem_nil _)
    case isFalse =>
      rw [List.forall_mem_singleton, Node.complete_joined, List.forall_mem_map]
      exact forall₂_congr fun c _ => c.complete_node
  refine (Node.complete_around _ _ _ false).trans ?_
  rw [and_iff_right (List.forall_mem_nil _), List.forall_mem_append, hnodes,
    List.forall_mem_singleton]

end Texts

theorem Statement.render_eq_ok {s : Statement} {config : RenderConfig} {text : String} :
    (render s config).value = .ok text
      ↔ s.assembled.Complete ∧ s.assembled.literalText config = text := by
  rw [show render s config = render s.outline config from rfl, Builder.render_eq_ok,
    s.assembled_eq, s.outline.forms.assembled]
  cases s.outline.rejection with
  | none => exact and_congr_left' (and_iff_right rfl)
  | some reason => exact iff_of_false (fun h => nomatch h.1.1) fun h => nomatch h.1

/-! ## Lengths

Rows take more room than a list, so a text tells which of its headers have rows. -/

theorem length_commaSeparated (texts : List String) :
    (commaSeparated texts).length = (texts.map String.length).sum + 2 * (texts.length - 1) := by
  induction texts with
  | nil => rfl
  | cons text rest ih =>
      cases rest with
      | nil => simp [commaSeparated]
      | cons next rest =>
          have hcons : commaSeparated (text :: next :: rest)
              = text ++ ", " ++ commaSeparated (next :: rest) := String.intercalate_cons_cons
          have hcomma : ", ".length = 2 := rfl
          rw [hcons, String.length_append, String.length_append, ih, hcomma]
          simp only [List.map_cons, List.sum_cons, List.length_cons]
          omega

theorem length_commaSeparated_lt {α : Type} {shorter longer : α → String} {as : List α}
    (hle : ∀ a ∈ as, (shorter a).length ≤ (longer a).length)
    (hlt : ∃ a ∈ as, (shorter a).length < (longer a).length) :
    (commaSeparated (as.map shorter)).length < (commaSeparated (as.map longer)).length := by
  rw [length_commaSeparated, length_commaSeparated, List.map_map, List.map_map, List.length_map,
    List.length_map]
  exact Nat.add_lt_add_right (List.sum_lt_sum _ _ hle hlt) _

theorem length_parenthesize (text : String) : (parenthesize text).length = text.length + 2 := by
  have hopen : "(".length = 1 := rfl
  have hclose : ")".length = 1 := rfl
  rw [parenthesize, String.length_append, String.length_append, hopen, hclose]
  omega

theorem sum_length_parenthesize (texts : List String) :
    ((texts.map parenthesize).map String.length).sum
      = (texts.map String.length).sum + 2 * texts.length := by
  induction texts with
  | nil => rfl
  | cons text rest ih =>
      simp only [List.map_cons, List.sum_cons, List.length_cons, length_parenthesize, ih]
      omega

namespace CommonTableExpression

variable {σ : Type} {c : CommonTableExpression σ}

theorem length_listedHeader_lt (h : c.ColumnsAsRows) :
    c.listedHeader.length < c.headerText.length := by
  have hmany : 1 < c.columns.length := h.2
  have hsome : ¬c.columns.isEmpty := fun hempty => by simp [List.isEmpty_iff.mp hempty] at hmany
  rw [headerText, if_pos h, rowsHeader, listedHeader, if_neg hsome, String.length_append,
    String.length_append, length_parenthesize, length_commaSeparated, length_commaSeparated,
    sum_length_parenthesize, List.length_map]
  omega

theorem length_listedHeader_le : c.listedHeader.length ≤ c.headerText.length := by
  by_cases h : c.ColumnsAsRows
  · exact (length_listedHeader_lt h).le
  · rw [headerText, if_neg h]

end CommonTableExpression

/-- The text tells whether one of the headers has rows for columns. -/
theorem With.text_headers_eq_iff {σ : Type} (isRecursive : Bool)
    (tables : List (CommonTableExpression σ)) (texts : σ → String) (body : String) :
    With.text isRecursive
        (tables.map fun c => c.headerText ++ " AS " ++ parenthesize (texts c.statement)) body
      = With.text isRecursive
        (tables.map fun c => c.listedHeader ++ " AS " ++ parenthesize (texts c.statement)) body
      ↔ ∀ c ∈ tables, ¬c.ColumnsAsRows := by
  refine ⟨fun heq c hc hrows => ?_, fun h => ?_⟩
  -- No header is shorter than its list, so one that is longer makes the whole text longer.
  · have hshorter : (commaSeparated (tables.map fun c =>
          c.listedHeader ++ " AS " ++ parenthesize (texts c.statement))).length
        < (commaSeparated (tables.map fun c =>
          c.headerText ++ " AS " ++ parenthesize (texts c.statement))).length := by
      refine length_commaSeparated_lt (fun c _ => ?_) ⟨c, hc, ?_⟩
      · simpa using CommonTableExpression.length_listedHeader_le
      · simpa using CommonTableExpression.length_listedHeader_lt hrows
    have hlengths := congrArg String.length heq
    simp only [With.text, String.length_append] at hlengths
    omega
  · have hheaders (c) (hc : c ∈ tables) : c.headerText = c.listedHeader := if_neg (h c hc)
    rw [List.map_congr_left fun c hc => by rw [hheaders c hc]]

/-- Whenever the statements of some named tables and the body are rendered, the WITH
statement over them is: to its keyword, the tables with commas between them, each with
its header, `AS` and its statement in parentheses, and the body, with single spaces
between these three. Every header is the name with one list of all columns, or the name
alone if there are none, just if no table named like a list of rows has more than one
column. -/
theorem common_tables_listed_iff {count : Nat} (nested : Fin count → Statement)
    (isRecursive : Bool) (tables : List (CommonTableExpression (Fin count)))
    (body : Builder (Fin count)) (config : RenderConfig) (texts : Fin count → String)
    (bodyText : String) (htables : tables ≠ []) (hnames : ∀ c ∈ tables, c.name ≠ "")
    (hstatements : ∀ c ∈ tables,
      (render (nested c.statement) config).value = .ok (texts c.statement))
    (hbody : (render (Statement.mk count body nested) config).value = .ok bodyText)
    (hshow : bodyText ≠ "") :
    let whole : Statement := ⟨count, .with_ isRecursive tables (some body), nested⟩
    let written (header : CommonTableExpression (Fin count) → String) : String :=
      With.text isRecursive
        (tables.map fun c => header c ++ " AS " ++ parenthesize (texts c.statement)) bodyText
    (render whole config).value = .ok (written CommonTableExpression.headerText)
      ∧ ((render whole config).value = .ok (written CommonTableExpression.listedHeader)
        ↔ ∀ c ∈ tables, ¬c.ColumnsAsRows) := by
  intro whole written
  let assembled (i : Fin count) : Assembled := (nested i).assembled
  let tables' := tables.map (·.map assembled)
  have hbody' : (render (body.map assembled) config).value = .ok bodyText := hbody
  obtain ⟨⟨hrejection, hcomplete⟩, htext⟩ := Builder.render_eq_ok.mp hbody'
  have hparts (c) (hc : c ∈ tables) := Statement.render_eq_ok.mp (hstatements c hc)
  have htables' : tables' ≠ [] := by simpa [tables'] using htables
  have hnames' : ∀ c ∈ tables', c.name ≠ "" := List.forall_mem_map.mpr hnames
  have hitems : (tables'.map fun c =>
        c.headerText ++ " AS " ++ parenthesize (c.statement.literalText config))
      = tables.map fun c => c.headerText ++ " AS " ++ parenthesize (texts c.statement) := by
    rw [List.map_map]
    refine List.map_congr_left fun c hc => ?_
    rw [← (hparts c hc).2]
    rfl
  have hrender : (render whole config).value = .ok (written CommonTableExpression.headerText) := by
    have hwhole : whole.outline = .with_ isRecursive tables' (some (body.map assembled)) := rfl
    refine Builder.render_eq_ok.mpr (hwhole ▸ ⟨⟨hrejection, ?_⟩, ?_⟩)
    · refine (Builder.complete_with isRecursive).mpr ⟨?_, hcomplete⟩
      exact List.forall_mem_map.mpr fun c hc => (hparts c hc).1
    · rw [Builder.literalText_with isRecursive htables' hnames' (htext ▸ hshow), htext, hitems]
  refine ⟨hrender, ?_⟩
  rw [hrender, Except.ok.injEq]
  exact With.text_headers_eq_iff isRecursive tables texts bodyText

namespace Statement

def allFrom (table : String) : Statement := ⟨0, .select { sources := [.raw table] }, Fin.elim0⟩

/-- Two tables named like the keyword in front of rows, one of them with two columns. -/
def tablesNamedValues : List (CommonTableExpression (Fin 2)) :=
  [{ name := "t", statement := 0 }, { name := "Values", columns := ["a", "b"], statement := 1 },
    { name := "VALUES", columns := ["c"], statement := 0 }]

end Statement

theorem common_tables_listed_iff_namedValues :
    let tables := Statement.tablesNamedValues
    let nested : Fin 2 → Statement := Fin.cases (.allFrom "users") fun _ => .allFrom "t"
    let texts : Fin 2 → String := Fin.cases "SELECT * FROM users" fun _ => "SELECT * FROM t"
    let body : Builder (Fin 2) := .select { sources := [.raw "values"] }
    let whole : Statement := ⟨2, .with_ true tables (some body), nested⟩
    let written (header : CommonTableExpression (Fin 2) → String) : String :=
      With.text true (tables.map fun c => header c ++ " AS " ++ parenthesize (texts c.statement))
        "SELECT * FROM values"
    written CommonTableExpression.headerText
        = "WITH RECURSIVE t AS (SELECT * FROM users), Values(a), (b) AS (SELECT * FROM t), "
          ++ "VALUES(c) AS (SELECT * FROM users) SELECT * FROM values"
      ∧ written CommonTableExpression.listedHeader
        = "WITH RECURSIVE t AS (SELECT * FROM users), Values(a, b) AS (SELECT * FROM t), "
          ++ "VALUES(c) AS (SELECT * FROM users) SELECT * FROM values"
      ∧ (render whole {}).value = .ok (written CommonTableExpression.headerText)
      ∧ ((render whole {}).value = .ok (written CommonTableExpression.listedHeader)
        ↔ ∀ c ∈ tables, ¬c.ColumnsAsRows) :=
  ⟨by decide +kernel, by decide +kernel,
    common_tables_listed_iff _ true Statement.tablesNamedValues _ {} _ "SELECT * FROM values"
      (by decide) (by decide) (by decide +kernel) rfl (by decide)⟩

/-- The columns of a table named `values` are no column list. -/
theorem values_columns_not_listed :
    let all : Statement := ⟨0, .select {}, Fin.elim0⟩
    let whole : Statement :=
      ⟨1, .with_ false [{ name := "values", columns := ["a", "b"], statement := 0 }]
        (some (.select { sources := [.raw "values"] })), fun _ => all⟩
    (render all {}).value = .ok "SELECT *"
      ∧ (render (Statement.allFrom "values") {}).value = .ok "SELECT * FROM values"
      ∧ (render whole {}).value = .ok "WITH values(a), (b) AS (SELECT *) SELECT * FROM values"
      ∧ (render whole {}).value ≠ .ok "WITH values(a, b) AS (SELECT *) SELECT * FROM values" := by
  decide +kernel

end SqlBuilder
