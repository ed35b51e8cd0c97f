import SqlBuilder.Proofs.Nesting.Statement

/-!
# Undecided columns

A column reference may leave open whether it is quoted. `undecided` gives the names of
all such columns in a builder or statement, read off its own fields, and `resolved` the same
builder or statement in which each of them says so itself; nothing else is touched. Without
an undecided column, both are the same (`Statement.resolved_of_decided`).
-/

namespace SqlBuilder

variable {σ : Type}

/-! ## Resolving columns -/

/-- The style with the quoting of an open column told. -/
def TextStyle.resolved (q : Bool) : TextStyle → TextStyle
  | .column none => .column (some q)
  | style => style

mutual

/-- The expression with its open columns told, apart from those of its subqueries. -/
def Expression.resolved (q : Bool) : Expression σ → Expression σ
  | .text content style suffix => .text content (style.resolved q) suffix
  | .value v suffix => .value v suffix
  | .list elements suffix => .list (Expression.resolvedAll q elements) suffix
  | .array elements suffix => .array (Expression.resolvedAll q elements) suffix
  | .call name arguments suffix => .call name (Expression.resolvedAll q arguments) suffix
  | .nested statement suffix => .nested statement suffix

def Expression.resolvedAll (q : Bool) : List (Expression σ) → List (Expression σ)
  | [] => []
  | e :: rest => e.resolved q :: Expression.resolvedAll q rest

end

mutual

def Conditions.resolved (q : Bool) : Conditions σ → Conditions σ
  | ⟨predicate, attached⟩ => ⟨predicate.resolved q, Attached.resolvedAll q attached⟩

def Predicate.resolved (q : Bool) : Predicate σ → Predicate σ
  | .compare left operator right => .compare (left.resolved q) operator (right.resolved q)
  | .trailing operand operator => .trailing (operand.resolved q) operator
  | .between left low high negated =>
      .between (left.resolved q) (low.resolved q) (high.resolved q) negated
  | .existence operand negated => .existence (operand.resolved q) negated
  | .membership left right negated => .membership (left.resolved q) (right.resolved q) negated
  | .quantified left operator quantifier right =>
      .quantified (left.resolved q) operator quantifier (right.resolved q)
  | .group conditions => .group (conditions.resolved q)

def Attached.resolvedAll (q : Bool) : List (Attached σ) → List (Attached σ)
  | [] => []
  | ⟨connector, conditions⟩ :: rest =>
      ⟨connector, conditions.resolved q⟩ :: Attached.resolvedAll q rest

end

def Join.resolved (q : Bool) (j : Join σ) : Join σ :=
  ⟨j.kind, j.table.resolved q, j.condition.map (·.resolved q)⟩

def OrderElement.resolved (q : Bool) (o : OrderElement σ) : OrderElement σ :=
  ⟨o.key.resolved q, o.direction, o.nulls⟩

mutual

def Select.resolved (q : Bool) : Select σ → Select σ
  | ⟨isDistinct, outputs, sources, joins, restriction, grouping, groupRestriction, unions,
      ordering, rowLimit, rowOffset⟩ =>
      { isDistinct
        outputs := outputs.map (·.resolved q)
        sources := sources.map (·.resolved q)
        joins := joins.map (·.resolved q)
        restriction := restriction.map (·.resolved q)
        grouping := grouping.map (·.resolved q)
        groupRestriction := groupRestriction.map (·.resolved q)
        unions := UnionMember.resolvedAll q unions
        ordering := ordering.map (·.resolved q)
        rowLimit := rowLimit.map (·.resolved q)
        rowOffset := rowOffset.map (·.resolved q) }

def UnionMember.resolvedAll (q : Bool) : List (UnionMember σ) → List (UnionMember σ)
  | [] => []
  | ⟨keepsDuplicates, select⟩ :: rest =>
      ⟨keepsDuplicates, select.resolved q⟩ :: UnionMember.resolvedAll q rest

end

def InsertSource.resolved (q : Bool) : InsertSource σ → InsertSource σ
  | .rows given => .rows (given.map (·.map (·.resolved q)))
  | .select s => .select (s.resolved q)

def Insert.resolved (q : Bool) (i : Insert σ) : Insert σ :=
  { table := i.table.resolved q
    targets := i.targets.map (·.resolved q)
    source := i.source.resolved q
    skipsConflicts := i.skipsConflicts
    results := i.results.map (·.resolved q) }

def Assignment.resolved (q : Bool) (a : Assignment σ) : Assignment σ :=
  ⟨a.column.resolved q, a.value.resolved q⟩

def Update.resolved (q : Bool) (u : Update σ) : Update σ :=
  { table := u.table.resolved q
    assignments := u.assignments.map (·.resolved q)
    sources := u.sources.map (·.resolved q)
    restriction := u.restriction.map (·.resolved q)
    results := u.results.map (·.resolved q) }

def Delete.resolved (q : Bool) (d : Delete σ) : Delete σ :=
  { table := d.table.resolved q
    sources := d.sources.map (·.resolved q)
    restriction := d.restriction.map (·.resolved q)
    results := d.results.map (·.resolved q) }

/-- The builder with all its columns resolved, apart from those of its subqueries. -/
def Builder.resolved (q : Bool) : Builder σ → Builder σ
  | .select s => .select (s.resolved q)
  | .insert i => .insert (i.resolved q)
  | .update u => .update (u.resolved q)
  | .delete d => .delete (d.resolved q)
  | .with_ isRecursive expressions none => .with_ isRecursive expressions none
  | .with_ isRecursive expressions (some body) =>
      .with_ isRecursive expressions (some (body.resolved q))
  | .commonTable c => .commonTable c
  | .join j => .join (j.resolved q)
  | .orderElement o => .orderElement (o.resolved q)
  | .conditions c => .conditions (c.resolved q)

/-- The statement with all its columns resolved, those of its subqueries included. -/
def Statement.resolved (q : Bool) : Statement → Statement
  | ⟨count, builder, nested⟩ => ⟨count, builder.resolved q, fun i => (nested i).resolved q⟩

/-! ## Undecided columns -/

/-- The name of a column that leaves its quoting open. -/
def TextStyle.undecided (content : String) : TextStyle → List String
  | .column none => [content]
  | _ => []

mutual

/-- The names of the open columns of an expression, apart from those of its subqueries. -/
def Expression.undecided : Expression σ → List String
  | .text content style _ => style.undecided content
  | .value _ _ => []
  | .list elements _ => Expression.undecidedAll elements
  | .array elements _ => Expression.undecidedAll elements
  | .call _ arguments _ => Expression.undecidedAll arguments
  | .nested _ _ => []

def Expression.undecidedAll : List (Expression σ) → List String
  | [] => []
  | e :: rest => e.undecided ++ Expression.undecidedAll rest

end

mutual

def Conditions.undecided : Conditions σ → List String
  | ⟨predicate, attached⟩ => predicate.undecided ++ Attached.undecidedAll attached

def Predicate.undecided : Predicate σ → List String
  | .compare left _ right => left.undecided ++ right.undecided
  | .trailing operand _ => operand.undecided
  | .between left low high _ => left.undecided ++ low.undecided ++ high.undecided
  | .existence operand _ => operand.undecided
  | .membership left right _ => left.undecided ++ right.undecided
  | .quantified left _ _ right => left.undecided ++ right.undecided
  | .group conditions => conditions.undecided

def Attached.undecidedAll : List (Attached σ) → List String
  | [] => []
  | ⟨_, conditions⟩ :: rest => conditions.undecided ++ Attached.undecidedAll rest

end

def Join.undecided (j : Join σ) : List String :=
  j.table.undecided ++ j.condition.toList.flatMap Conditions.undecided

mutual

def Select.undecided : Select σ → List String
  | ⟨_, outputs, sources, joins, restriction, grouping, groupRestriction, unions, ordering,
      rowLimit, rowOffset⟩ =>
      outputs.flatMap Expression.undecided
        ++ sources.flatMap Expression.undecided
        ++ joins.flatMap Join.undecided
        ++ restriction.toList.flatMap Conditions.undecided
        ++ grouping.flatMap Expression.undecided
        ++ groupRestriction.toList.flatMap Conditions.undecided
        ++ UnionMember.undecidedAll unions
        ++ ordering.flatMap (·.key.undecided)
        ++ rowLimit.toList.flatMap Expression.undecided
        ++ rowOffset.toList.flatMap Expression.undecided

def UnionMember.undecidedAll : List (UnionMember σ) → List String
  | [] => []
  | ⟨_, select⟩ :: rest => select.undecided ++ UnionMember.undecidedAll rest

end

def InsertSource.undecided : InsertSource σ → List String
  | .rows given => given.flatMap (·.flatMap Expression.undecided)
  | .select s => s.undecided

def Insert.undecided (i : Insert σ) : List String :=
  i.table.undecided ++ i.targets.flatMap Expression.undecided ++ i.source.undecided
    ++ i.results.flatMap Expression.undecided

def Assignment.undecided (a : Assignment σ) : List String :=
  a.column.undecided ++ a.value.undecided

def Update.undecided (u : Update σ) : List String :=
  u.table.undecided
    ++ u.assignments.flatMap Assignment.undecided
    ++ u.sources.flatMap Expression.undecided
    ++ u.restriction.toList.flatMap Conditions.undecided
    ++ u.results.flatMap Expression.undecided

def Delete.undecided (d : Delete σ) : List String :=
  d.table.undecided
    ++ d.sources.flatMap Expression.undecided
    ++ d.restriction.toList.flatMap Conditions.undecided
    ++ d.results.flatMap Expression.undecided

def Builder.undecided : Builder σ → List String
  | .select s => s.undecided
  | .insert i => i.undecided
  | .update u => u.undecided
  | .delete d => d.undecided
  | .with_ _ _ none => []
  | .with_ _ _ (some body) => body.undecided
  | .commonTable _ => []
  | .join j => j.undecided
  | .orderElement o => o.key.undecided
  | .conditions c => c.undecided

/-- The names of all undecided columns of a statement, those of its subqueries included. -/
def Statement.undecided : Statement → List String
  | ⟨count, builder, nested⟩ =>
      builder.undecided ++ (List.finRange count).flatMap fun i => (nested i).undecided

/-! ## Nothing to resolve -/

/-- A list without open columns is left alone if each part without any is. -/
theorem map_of_undecided {α : Type} {undecided : α → List String} {f : α → α}
    (hf : ∀ a, undecided a = [] → f a = a) {as : List α} (h : as.flatMap undecided = []) :
    as.map f = as := by
  have hall := List.flatMap_eq_nil_iff.mp h
  exact (List.map_congr_left fun a ha => hf a (hall a ha)).trans (List.map_id as)

theorem option_of_undecided {α : Type} {undecided : α → List String} {f : α → α}
    (hf : ∀ a, undecided a = [] → f a = a) {o : Option α} (h : o.toList.flatMap undecided = []) :
    o.map f = o := by
  cases o with
  | none => rfl
  | some a =>
      rw [Option.toList_some, List.flatMap_singleton] at h
      exact congrArg some (hf a h)

section Decided

variable {q : Bool}

theorem TextStyle.resolved_of_decided {content : String} : ∀ {style : TextStyle},
    style.undecided content = [] → style.resolved q = style
  | .column none, h => nomatch h
  | .column (some _), _ | .raw, _ | .stringConstant, _ | .dollarString _, _ | .field, _ => rfl

mutual

/-- There is nothing to resolve where no column is open. -/
theorem Expression.resolved_of_decided : ∀ e : Expression σ, e.undecided = [] → e.resolved q = e
  | .text content style suffix, h => by
      rw [Expression.resolved, TextStyle.resolved_of_decided h]
  | .value _ _, _ | .nested _ _, _ => rfl
  | .list elements suffix, h => by
      rw [Expression.resolved, Expression.resolvedAll_of_decided elements h]
  | .array elements suffix, h => by
      rw [Expression.resolved, Expression.resolvedAll_of_decided elements h]
  | .call name arguments suffix, h => by
      rw [Expression.resolved, Expression.resolvedAll_of_decided arguments h]

theorem Expression.resolvedAll_of_decided : ∀ es : List (Expression σ),
    Expression.undecidedAll es = [] → Expression.resolvedAll q es = es
  | [], _ => rfl
  | e :: rest, h => by
      obtain ⟨he, hrest⟩ := List.append_eq_nil_iff.mp h
      rw [Expression.resolvedAll, e.resolved_of_decided he,
        Expression.resolvedAll_of_decided rest hrest]

end

mutual

theorem Conditions.resolved_of_decided : ∀ c : Conditions σ, c.undecided = [] → c.resolved q = c
  | ⟨predicate, attached⟩, h => by
      obtain ⟨hpredicate, hattached⟩ := List.append_eq_nil_iff.mp h
      rw [Conditions.resolved, predicate.resolved_of_decided hpredicate,
        Attached.resolvedAll_of_decided attached hattached]

theorem Predicate.resolved_of_decided : ∀ p : Predicate σ, p.undecided = [] → p.resolved q = p
  | .compare left operator right, h => by
      obtain ⟨hleft, hright⟩ := List.append_eq_nil_iff.mp h
      rw [Predicate.resolved, left.resolved_of_decided hleft, right.resolved_of_decided hright]
  | .trailing operand operator, h => by
      rw [Predicate.resolved, operand.resolved_of_decided h]
  | .between left low high negated, h => by
      obtain ⟨hfirst, hhigh⟩ := List.append_eq_nil_iff.mp h
      obtain ⟨hleft, hlow⟩ := List.append_eq_nil_iff.mp hfirst
      rw [Predicate.resolved, left.resolved_of_decided hleft, low.resolved_of_decided hlow,
        high.resolved_of_decided hhigh]
  | .existence operand negated, h => by
      rw [Predicate.resolved, operand.resolved_of_decided h]
  | .membership left right negated, h => by
      obtain ⟨hleft, hright⟩ := List.append_eq_nil_iff.mp h
      rw [Predicate.resolved, left.resolved_of_decided hleft, right.resolved_of_decided hright]
  | .quantified left operator quantifier right, h => by
      obtain ⟨hleft, hright⟩ := List.append_eq_nil_iff.mp h
      rw [Predicate.resolved, left.resolved_of_decided hleft, right.resolved_of_decided hright]
  | .group conditions, h => by
      rw [Predicate.resolved, conditions.resolved_of_decided h]

theorem Attached.resolvedAll_of_decided : ∀ as : List (Attached σ),
    Attached.undecidedAll as = [] → Attached.resolvedAll q as = as
  | [], _ => rfl
  | ⟨connector, conditions⟩ :: rest, h => by
      obtain ⟨hconditions, hrest⟩ := List.append_eq_nil_iff.mp h
      rw [Attached.resolvedAll, conditions.resolved_of_decided hconditions,
        Attached.resolvedAll_of_decided rest hrest]

end

theorem expressions_of_decided {es : List (Expression σ)}
    (h : es.flatMap Expression.undecided = []) : es.map (·.resolved q) = es :=
  map_of_undecided Expression.resolved_of_decided h

theorem conditions_of_decided {c : Option (Conditions σ)}
    (h : c.toList.flatMap Conditions.undecided = []) : c.map (·.resolved q) = c :=
  option_of_undecided Conditions.resolved_of_decided h

theorem Join.resolved_of_decided (j : Join σ) (h : j.undecided = []) : j.resolved q = j := by
  obtain ⟨htable, hcondition⟩ := List.append_eq_nil_iff.mp h
  rw [Join.resolved, j.table.resolved_of_decided htable, conditions_of_decided hcondition]

theorem OrderElement.resolved_of_decided (o : OrderElement σ) (h : o.key.undecided = []) :
    o.resolved q = o := by
  rw [OrderElement.resolved, o.key.resolved_of_decided h]

mutual

theorem Select.resolved_of_decided : ∀ s : Select σ, s.undecided = [] → s.resolved q = s
  | ⟨isDistinct, outputs, sources, joins, restriction, grouping, groupRestriction, unions,
      ordering, rowLimit, rowOffset⟩, h => by
      simp only [Select.undecided, List.append_eq_nil_iff, and_assoc] at h
      obtain ⟨houtputs, hsources, hjoins, hrestriction, hgrouping, hgroupRestriction, hunions,
        hordering, hlimit, hoffset⟩ := h
      rw [Select.resolved, expressions_of_decided houtputs, expressions_of_decided hsources,
        map_of_undecided Join.resolved_of_decided hjoins, conditions_of_decided hrestriction,
        expressions_of_decided hgrouping, conditions_of_decided hgroupRestriction,
        UnionMember.resolvedAll_of_decided unions hunions,
        map_of_undecided OrderElement.resolved_of_decided hordering,
        option_of_undecided Expression.resolved_of_decided hlimit,
        option_of_undecided Expression.resolved_of_decided hoffset]

theorem UnionMember.resolvedAll_of_decided : ∀ members : List (UnionMember σ),
    UnionMember.undecidedAll members = [] → UnionMember.resolvedAll q members = members
  | [], _ => rfl
  | ⟨keepsDuplicates, select⟩ :: rest, h => by
      obtain ⟨hselect, hrest⟩ := List.append_eq_nil_iff.mp h
      rw [UnionMember.resolvedAll, select.resolved_of_decided hselect,
        UnionMember.resolvedAll_of_decided rest hrest]

end

theorem InsertSource.resolved_of_decided : ∀ source : InsertSource σ,
    source.undecided = [] → source.resolved q = source
  | .rows given, h => by
      rw [InsertSource.resolved, map_of_undecided (fun _ => expressions_of_decided) h]
  | .select s, h => by rw [InsertSource.resolved, s.resolved_of_decided h]

theorem Insert.resolved_of_decided (i : Insert σ) (h : i.undecided = []) : i.resolved q = i := by
  simp only [Insert.undecided, List.append_eq_nil_iff, and_assoc] at h
  obtain ⟨htable, htargets, hsource, hresults⟩ := h
  rw [Insert.resolved, i.table.resolved_of_decided htable, expressions_of_decided htargets,
    i.source.resolved_of_decided hsource, expressions_of_decided hresults]

theorem Assignment.resolved_of_decided (a : Assignment σ) (h : a.undecided = []) :
    a.resolved q = a := by
  obtain ⟨hcolumn, hvalue⟩ := List.append_eq_nil_iff.mp h
  rw [Assignment.resolved, a.column.resolved_of_decided hcolumn,
    a.value.resolved_of_decided hvalue]

theorem Update.resolved_of_decided (u : Update σ) (h : u.undecided = []) : u.resolved q = u := by
  simp only [Update.undecided, List.append_eq_nil_iff, and_assoc] at h
  obtain ⟨htable, hassignments, hsources, hrestriction, hresults⟩ := h
  rw [Update.resolved, u.table.resolved_of_decided htable,
    map_of_undecided Assignment.resolved_of_decided hassignments, expressions_of_decided hsources,
    conditions_of_decided hrestriction, expressions_of_decided hresults]

theorem Delete.resolved_of_decided (d : Delete σ) (h : d.undecided = []) : d.resolved q = d := by
  simp only [Delete.undecided, List.append_eq_nil_iff, and_assoc] at h
  obtain ⟨htable, hsources, hrestriction, hresults⟩ := h
  rw [Delete.resolved, d.table.resolved_of_decided htable, expressions_of_decided hsources,
    conditions_of_decided hrestriction, expressions_of_decided hresults]

theorem Builder.resolved_of_decided : ∀ b : Builder σ, b.undecided = [] → b.resolved q = b
  | .select s, h => congrArg Builder.select (s.resolved_of_decided h)
  | .insert i, h => congrArg Builder.insert (i.resolved_of_decided h)
  | .update u, h => congrArg Builder.update (u.resolved_of_decided h)
  | .delete d, h => congrArg Builder.delete (d.resolved_of_decided h)
  | .with_ _ _ none, _ | .commonTable _, _ => rfl
  | .with_ isRecursive expressions (some body), h =>
      congrArg (fun b => Builder.with_ isRecursive expressions (some b))
        (body.resolved_of_decided h)
  | .join j, h => congrArg Builder.join (j.resolved_of_decided h)
  | .orderElement o, h => congrArg Builder.orderElement (o.resolved_of_decided h)
  | .conditions c, h => congrArg Builder.conditions (c.resolved_of_decided h)

/-- Without an open column at any depth, the statement is what it was. -/
theorem Statement.resolved_of_decided : ∀ s : Statement, s.undecided = [] → s.resolved q = s
  | ⟨count, builder, nested⟩, h => by
      obtain ⟨hbuilder, hnested⟩ := List.append_eq_nil_iff.mp h
      have hall := List.flatMap_eq_nil_iff.mp hnested
      rw [Statement.resolved, builder.resolved_of_decided hbuilder]
      congr 1
      funext i
      exact (nested i).resolved_of_decided (hall i (List.mem_finRange i))

end Decided

end SqlBuilder
