import SqlBuilder.Proofs.Nesting.Statement

/-!
# Strings in their places

A thing with its string data marked: every text value and every string constant in
it, each with the way to put another string in its place and with nothing else
changed. What is written as it is, without quotes, is listed beside that.

`Marked` is closed under making things from marked parts, so that the marks of a
statement are those of its expressions, those of subqueries included
(`Statement.marked`); putting a string in its own place changes nothing, by the
structure itself.
-/

namespace SqlBuilder

variable {α β σ τ : Type}

/-- A string in something, and how to put another one in its place. -/
structure Place (α : Type) where
  content : String
  put : String → α

def Place.map (g : α → β) (p : Place α) : Place β := ⟨p.content, fun s => g (p.put s)⟩

/-- Something with its strings. -/
structure Marked (α : Type) where
  whole : α
  /-- The text values and the string constants. -/
  strings : List (Place α)
  /-- What is written as it is. -/
  raw : List String
  dollarStrings : List String
  put_content : ∀ p ∈ strings, p.put p.content = whole

namespace Marked

/-- Something without strings. -/
def pure (a : α) : Marked α := ⟨a, [], [], [], List.forall_mem_nil _⟩

/-- Something that is made of a string. -/
def string (content : String) (put : String → α) : Marked α where
  whole := put content
  strings := [⟨content, put⟩]
  raw := []
  dollarStrings := []
  put_content p hp := by rw [List.mem_singleton.mp hp]

def map (g : α → β) (m : Marked α) : Marked β where
  whole := g m.whole
  strings := m.strings.map (Place.map g)
  raw := m.raw
  dollarStrings := m.dollarStrings
  put_content p hp := by
    obtain ⟨q, hq, rfl⟩ := List.mem_map.mp hp
    exact congrArg g (m.put_content q hq)

/-- Two parts; a string of the one leaves the other as it is. -/
def pair (m : Marked α) (n : Marked β) : Marked (α × β) where
  whole := (m.whole, n.whole)
  strings := m.strings.map (Place.map (·, n.whole)) ++ n.strings.map (Place.map (m.whole, ·))
  raw := m.raw ++ n.raw
  dollarStrings := m.dollarStrings ++ n.dollarStrings
  put_content p hp := by
    rcases List.mem_append.mp hp with hp | hp
    · obtain ⟨q, hq, rfl⟩ := List.mem_map.mp hp
      exact congrArg (·, n.whole) (m.put_content q hq)
    · obtain ⟨q, hq, rfl⟩ := List.mem_map.mp hp
      exact congrArg (m.whole, ·) (n.put_content q hq)

def list : List (Marked α) → Marked (List α)
  | [] => pure []
  | m :: rest => (m.pair (list rest)).map fun p => p.1 :: p.2

def option : Option (Marked α) → Marked (Option α)
  | none => pure none
  | some m => m.map some

/-- The same with more that is written as it is. -/
def withRaw (raw : List String) (m : Marked α) : Marked α := { m with raw := raw ++ m.raw }

def withDollarString (content : String) (m : Marked α) : Marked α :=
  { m with dollarStrings := content :: m.dollarStrings }

theorem whole_list (as : List α) {mark : α → Marked β} {change : α → β}
    (h : ∀ a, (mark a).whole = change a) : (list (as.map mark)).whole = as.map change := by
  induction as with
  | nil => rfl
  | cons a rest ih => exact congr (congrArg List.cons (h a)) ih

theorem whole_option (a : Option α) {mark : α → Marked β} {change : α → β}
    (h : ∀ a, (mark a).whole = change a) : (option (a.map mark)).whole = a.map change := by
  cases a with
  | none => rfl
  | some a => exact congrArg some (h a)

end Marked

/-! ## Values and expressions -/

mutual

def Value.marked : Value → Marked Value
  | .scalar (.text s) => .string s fun s => .scalar (.text s)
  | .scalar s => .pure (.scalar s)
  | .array elements => (Value.markedAll elements).map .array

def Value.markedAll : List Value → Marked (List Value)
  | [] => .pure []
  | v :: rest => (v.marked.pair (Value.markedAll rest)).map fun p => p.1 :: p.2

end

/-- What a suffix writes as it is. -/
def Suffix.raw (s : Suffix) : List String :=
  s.cast.toList ++ s.aliased.toList.flatMap fun a => a.name :: a.columns

/-- A text as an expression: only a string constant is string data. A name is
written as it is unless it is quoted. -/
def TextStyle.marked (config : RenderConfig) (content : String) (suffix : Suffix) :
    TextStyle → Marked (Expression σ)
  | .stringConstant => .string content fun s => .text s .stringConstant suffix
  | .dollarString tag =>
      (Marked.pure (.text content (.dollarString tag) suffix)).withDollarString content
  | .raw => (Marked.pure (.text content .raw suffix)).withRaw [content]
  | .field => (Marked.pure (.text content .field suffix)).withRaw [content]
  | .column quoted =>
      (Marked.pure (.text content (.column quoted) suffix)).withRaw
        (if quoted.getD config.quoteIdentifiers then [] else [content])

section Marks

variable (config : RenderConfig) (f : σ → Marked τ)

mutual

def Expression.marked : Expression σ → Marked (Expression τ)
  | .text content style suffix => (style.marked config content suffix).withRaw suffix.raw
  | .value v suffix => (v.marked.map (.value · suffix)).withRaw suffix.raw
  | .list elements suffix =>
      ((Expression.markedAll elements).map (.list · suffix)).withRaw suffix.raw
  | .array elements suffix =>
      ((Expression.markedAll elements).map (.array · suffix)).withRaw suffix.raw
  | .call name arguments suffix =>
      ((Expression.markedAll arguments).map (.call name · suffix)).withRaw (name :: suffix.raw)
  | .nested statement suffix => ((f statement).map (.nested · suffix)).withRaw suffix.raw

def Expression.markedAll : List (Expression σ) → Marked (List (Expression τ))
  | [] => .pure []
  | e :: rest => (e.marked.pair (Expression.markedAll rest)).map fun p => p.1 :: p.2

end

/-! ## Conditions -/

mutual

def Conditions.marked : Conditions σ → Marked (Conditions τ)
  | ⟨predicate, attached⟩ =>
      (predicate.marked.pair (Attached.markedAll attached)).map fun p => ⟨p.1, p.2⟩

def Predicate.marked : Predicate σ → Marked (Predicate τ)
  | .compare left operator right =>
      (((left.marked config f).pair (right.marked config f)).map
        fun p => .compare p.1 operator p.2).withRaw [operator]
  | .trailing operand operator =>
      ((operand.marked config f).map (.trailing · operator)).withRaw [operator]
  | .between left low high negated =>
      ((left.marked config f).pair ((low.marked config f).pair (high.marked config f))).map
        fun p => .between p.1 p.2.1 p.2.2 negated
  | .existence operand negated => (operand.marked config f).map (.existence · negated)
  | .membership left right negated =>
      ((left.marked config f).pair (right.marked config f)).map
        fun p => .membership p.1 p.2 negated
  | .quantified left operator quantifier right =>
      (((left.marked config f).pair (right.marked config f)).map
        fun p => .quantified p.1 operator quantifier p.2).withRaw [operator]
  | .group conditions => conditions.marked.map .group

def Attached.markedAll : List (Attached σ) → Marked (List (Attached τ))
  | [] => .pure []
  | ⟨connector, conditions⟩ :: rest =>
      (conditions.marked.pair (Attached.markedAll rest)).map fun p => ⟨connector, p.1⟩ :: p.2

end

/-! ## Statements -/

def Expression.markedEach (es : List (Expression σ)) : Marked (List (Expression τ)) :=
  .list (es.map (Expression.marked config f))

def Expression.markedOption (e : Option (Expression σ)) : Marked (Option (Expression τ)) :=
  .option (e.map (Expression.marked config f))

def Conditions.markedOption (c : Option (Conditions σ)) : Marked (Option (Conditions τ)) :=
  .option (c.map (Conditions.marked config f))

def Join.marked (j : Join σ) : Marked (Join τ) :=
  ((j.table.marked config f).pair (Conditions.markedOption config f j.condition)).map
    fun p => ⟨j.kind, p.1, p.2⟩

def OrderElement.marked (o : OrderElement σ) : Marked (OrderElement τ) :=
  (o.key.marked config f).map (⟨·, o.direction, o.nulls⟩)

mutual

/-- The parts of a selection in the order of its clauses. -/
def Select.marked : Select σ → Marked (Select τ)
  | ⟨isDistinct, outputs, sources, joins, restriction, grouping, groupRestriction, unions,
      ordering, rowLimit, rowOffset⟩ =>
      let core :=
        (((((Expression.markedEach config f outputs).pair
          (Expression.markedEach config f sources)).pair
          (.list (joins.map (Join.marked config f)))).pair
          (Conditions.markedOption config f restriction)).pair
          (Expression.markedEach config f grouping)).pair
          (Conditions.markedOption config f groupRestriction)
      let trailing :=
        ((Marked.list (ordering.map (OrderElement.marked config f))).pair
          (Expression.markedOption config f rowLimit)).pair
          (Expression.markedOption config f rowOffset)
      ((core.pair (UnionMember.markedAll unions)).pair trailing).map
        fun ⟨⟨⟨⟨⟨⟨⟨outputs, sources⟩, joins⟩, restriction⟩, grouping⟩, groupRestriction⟩, unions⟩,
            ⟨ordering, rowLimit⟩, rowOffset⟩ =>
          ⟨isDistinct, outputs, sources, joins, restriction, grouping, groupRestriction, unions,
            ordering, rowLimit, rowOffset⟩

def UnionMember.markedAll : List (UnionMember σ) → Marked (List (UnionMember τ))
  | [] => .pure []
  | ⟨keepsDuplicates, select⟩ :: rest =>
      (select.marked.pair (UnionMember.markedAll rest)).map
        fun p => ⟨keepsDuplicates, p.1⟩ :: p.2

end

def InsertSource.marked : InsertSource σ → Marked (InsertSource τ)
  | .rows given => (Marked.list (given.map (Expression.markedEach config f))).map .rows
  | .select s => (s.marked config f).map .select

def Insert.marked (i : Insert σ) : Marked (Insert τ) :=
  ((((i.table.marked config f).pair (Expression.markedEach config f i.targets)).pair
    (i.source.marked config f)).pair (Expression.markedEach config f i.results)).map
    fun ⟨⟨⟨table, targets⟩, source⟩, results⟩ =>
      ⟨table, targets, source, i.skipsConflicts, results⟩

def Assignment.marked (a : Assignment σ) : Marked (Assignment τ) :=
  ((a.column.marked config f).pair (a.value.marked config f)).map fun p => ⟨p.1, p.2⟩

def Update.marked (u : Update σ) : Marked (Update τ) :=
  (((((u.table.marked config f).pair (.list (u.assignments.map (Assignment.marked config f)))).pair
    (Expression.markedEach config f u.sources)).pair
    (Conditions.markedOption config f u.restriction)).pair
    (Expression.markedEach config f u.results)).map
    fun ⟨⟨⟨⟨table, assignments⟩, sources⟩, restriction⟩, results⟩ =>
      ⟨table, assignments, sources, restriction, results⟩

def Delete.marked (d : Delete σ) : Marked (Delete τ) :=
  ((((d.table.marked config f).pair (Expression.markedEach config f d.sources)).pair
    (Conditions.markedOption config f d.restriction)).pair
    (Expression.markedEach config f d.results)).map
    fun ⟨⟨⟨table, sources⟩, restriction⟩, results⟩ => ⟨table, sources, restriction, results⟩

def CommonTableExpression.marked (c : CommonTableExpression σ) :
    Marked (CommonTableExpression τ) :=
  ((f c.statement).map (⟨c.name, c.columns, ·⟩)).withRaw (c.name :: c.columns)

def Builder.marked : Builder σ → Marked (Builder τ)
  | .select s => (s.marked config f).map .select
  | .insert i => (i.marked config f).map .insert
  | .update u => (u.marked config f).map .update
  | .delete d => (d.marked config f).map .delete
  | .with_ isRecursive expressions none =>
      (Marked.list (expressions.map (CommonTableExpression.marked f))).map
        (.with_ isRecursive · none)
  | .with_ isRecursive expressions (some body) =>
      ((Marked.list (expressions.map (CommonTableExpression.marked f))).pair body.marked).map
        fun p => .with_ isRecursive p.1 (some p.2)
  | .commonTable c => (c.marked f).map .commonTable
  | .join j => (j.marked config f).map .join
  | .orderElement o => (o.marked config f).map .orderElement
  | .conditions c => (c.marked config f).map .conditions

end Marks

/-- A statement with all its strings, those of subqueries where the subqueries
stand. -/
def Statement.marked (config : RenderConfig) : Statement → Marked (Builder Assembled)
  | ⟨_, builder, nested⟩ =>
      builder.marked config fun i =>
        ((nested i).marked config).map fun b => .ofScript b.script

/-! ## The whole is what it was -/

mutual

theorem Value.whole_marked : ∀ v : Value, v.marked.whole = v
  | .scalar s => by cases s <;> rfl
  | .array elements => congrArg Value.array (Value.whole_markedAll elements)

theorem Value.whole_markedAll : ∀ vs : List Value, (Value.markedAll vs).whole = vs
  | [] => rfl
  | v :: rest => congr (congrArg List.cons v.whole_marked) (Value.whole_markedAll rest)

end

section Wholes

variable (config : RenderConfig) (f : σ → Marked τ)

mutual

theorem Expression.whole_marked : ∀ e : Expression σ,
    (e.marked config f).whole = e.map fun i => (f i).whole
  | .text content style suffix => by cases style <;> rfl
  | .value v suffix => congrArg (Expression.value · suffix) v.whole_marked
  | .list elements suffix =>
      congrArg (Expression.list · suffix) (Expression.whole_markedAll elements)
  | .array elements suffix =>
      congrArg (Expression.array · suffix) (Expression.whole_markedAll elements)
  | .call name arguments suffix =>
      congrArg (Expression.call name · suffix) (Expression.whole_markedAll arguments)
  | .nested statement suffix => rfl

theorem Expression.whole_markedAll : ∀ es : List (Expression σ),
    (Expression.markedAll config f es).whole = Expression.mapAll (fun i => (f i).whole) es
  | [] => rfl
  | e :: rest => congr (congrArg List.cons e.whole_marked) (Expression.whole_markedAll rest)

end

mutual

theorem Conditions.whole_marked : ∀ c : Conditions σ,
    (c.marked config f).whole = c.map fun i => (f i).whole
  | ⟨predicate, attached⟩ =>
      congr (congrArg Conditions.mk predicate.whole_marked) (Attached.whole_markedAll attached)

theorem Predicate.whole_marked : ∀ p : Predicate σ,
    (p.marked config f).whole = p.map fun i => (f i).whole
  | .compare left operator right => by
      simp [Predicate.marked, Predicate.map, Marked.withRaw, Marked.map, Marked.pair,
        Expression.whole_marked]
  | .trailing operand operator => by
      simp [Predicate.marked, Predicate.map, Marked.withRaw, Marked.map,
        Expression.whole_marked]
  | .between left low high negated => by
      simp [Predicate.marked, Predicate.map, Marked.map, Marked.pair, Expression.whole_marked]
  | .existence operand negated =>
      congrArg (Predicate.existence · negated) (Expression.whole_marked config f operand)
  | .membership left right negated => by
      simp [Predicate.marked, Predicate.map, Marked.map, Marked.pair, Expression.whole_marked]
  | .quantified left operator quantifier right => by
      simp [Predicate.marked, Predicate.map, Marked.withRaw, Marked.map, Marked.pair,
        Expression.whole_marked]
  | .group conditions => congrArg Predicate.group conditions.whole_marked

theorem Attached.whole_markedAll : ∀ as : List (Attached σ),
    (Attached.markedAll config f as).whole = Attached.mapAll (fun i => (f i).whole) as
  | [] => rfl
  | ⟨connector, conditions⟩ :: rest =>
      congr (congrArg (fun c => List.cons (Attached.mk connector c)) conditions.whole_marked)
        (Attached.whole_markedAll rest)

end

theorem Expression.whole_markedEach (es : List (Expression σ)) :
    (Expression.markedEach config f es).whole = es.map (·.map fun i => (f i).whole) :=
  Marked.whole_list es (Expression.whole_marked config f)

theorem Expression.whole_markedOption (e : Option (Expression σ)) :
    (Expression.markedOption config f e).whole = e.map (·.map fun i => (f i).whole) :=
  Marked.whole_option e (Expression.whole_marked config f)

theorem Conditions.whole_markedOption (c : Option (Conditions σ)) :
    (Conditions.markedOption config f c).whole = c.map (·.map fun i => (f i).whole) :=
  Marked.whole_option c (Conditions.whole_marked config f)

theorem Join.whole_marked (j : Join σ) :
    (j.marked config f).whole = j.map fun i => (f i).whole := by
  simp [Join.marked, Join.map, Marked.map, Marked.pair, Expression.whole_marked,
    Conditions.whole_markedOption]

theorem OrderElement.whole_marked (o : OrderElement σ) :
    (o.marked config f).whole = o.map fun i => (f i).whole := by
  simp [OrderElement.marked, OrderElement.map, Marked.map, Expression.whole_marked]

mutual

theorem Select.whole_marked : ∀ s : Select σ,
    (s.marked config f).whole = s.map fun i => (f i).whole
  | ⟨_, _, _, joins, _, _, _, unions, ordering, _, _⟩ => by
      simp [Select.marked, Select.map, Marked.map, Marked.pair, Expression.whole_markedEach,
        Expression.whole_markedOption, Conditions.whole_markedOption,
        Marked.whole_list joins (Join.whole_marked config f),
        Marked.whole_list ordering (OrderElement.whole_marked config f),
        UnionMember.whole_markedAll unions]

theorem UnionMember.whole_markedAll : ∀ members : List (UnionMember σ),
    (UnionMember.markedAll config f members).whole
      = UnionMember.mapAll (fun i => (f i).whole) members
  | [] => rfl
  | ⟨keepsDuplicates, select⟩ :: rest =>
      congr (congrArg (fun s => List.cons (UnionMember.mk keepsDuplicates s)) select.whole_marked)
        (UnionMember.whole_markedAll rest)

end

theorem InsertSource.whole_marked : ∀ source : InsertSource σ,
    (source.marked config f).whole = source.map fun i => (f i).whole
  | .rows given =>
      congrArg InsertSource.rows (Marked.whole_list given (Expression.whole_markedEach config f))
  | .select s => congrArg InsertSource.select (s.whole_marked config f)

theorem Insert.whole_marked (i : Insert σ) :
    (i.marked config f).whole = i.map fun i => (f i).whole := by
  simp [Insert.marked, Insert.map, Marked.map, Marked.pair, Expression.whole_marked,
    Expression.whole_markedEach, InsertSource.whole_marked]

theorem Assignment.whole_marked (a : Assignment σ) :
    (a.marked config f).whole = a.map fun i => (f i).whole := by
  simp [Assignment.marked, Assignment.map, Marked.map, Marked.pair, Expression.whole_marked]

theorem Update.whole_marked (u : Update σ) :
    (u.marked config f).whole = u.map fun i => (f i).whole := by
  simp [Update.marked, Update.map, Marked.map, Marked.pair, Expression.whole_marked,
    Expression.whole_markedEach, Conditions.whole_markedOption,
    Marked.whole_list u.assignments (Assignment.whole_marked config f)]

theorem Delete.whole_marked (d : Delete σ) :
    (d.marked config f).whole = d.map fun i => (f i).whole := by
  simp [Delete.marked, Delete.map, Marked.map, Marked.pair, Expression.whole_marked,
    Expression.whole_markedEach, Conditions.whole_markedOption]

theorem CommonTableExpression.whole_markedList (cs : List (CommonTableExpression σ)) :
    (Marked.list (cs.map (CommonTableExpression.marked f))).whole
      = cs.map (·.map fun i => (f i).whole) :=
  Marked.whole_list cs fun _ => rfl

theorem Builder.whole_marked : ∀ b : Builder σ,
    (b.marked config f).whole = b.map fun i => (f i).whole
  | .select s => congrArg Builder.select (s.whole_marked config f)
  | .insert i => congrArg Builder.insert (i.whole_marked config f)
  | .update u => congrArg Builder.update (u.whole_marked config f)
  | .delete d => congrArg Builder.delete (d.whole_marked config f)
  | .with_ isRecursive expressions none =>
      congrArg (Builder.with_ isRecursive · none)
        (CommonTableExpression.whole_markedList f expressions)
  | .with_ isRecursive expressions (some body) => by
      simp [Builder.marked, Builder.map, Marked.map, Marked.pair,
        CommonTableExpression.whole_markedList, body.whole_marked]
  | .commonTable _ => rfl
  | .join j => congrArg Builder.join (j.whole_marked config f)
  | .orderElement o => congrArg Builder.orderElement (o.whole_marked config f)
  | .conditions c => congrArg Builder.conditions (c.whole_marked config f)

end Wholes

/-- The whole is the statement with its subqueries assembled. -/
theorem Statement.whole_marked (config : RenderConfig) : ∀ s : Statement,
    (s.marked config).whole = s.outline
  | ⟨_, builder, nested⟩ => by
      have hnested : (fun i => (((nested i).marked config).map fun b =>
          Assembled.ofScript b.script).whole) = fun i => (nested i).assembled := by
        funext i
        rw [Statement.assembled_eq, ← (nested i).whole_marked config]
        rfl
      rw [Statement.marked, Builder.whole_marked, hnested, Statement.outline]

end SqlBuilder
