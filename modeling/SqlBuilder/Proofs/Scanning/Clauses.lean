import SqlBuilder.Proofs.Scanning.Nodes

/-!
# Strings in clauses

Condition chains, by induction on the chain, and the clauses that statements are
made of: their nodes have safe places for their strings if their subqueries have.
-/

namespace SqlBuilder

variable {σ : Type} {config : RenderConfig} {f : σ → Marked Assembled}

/-! ## Conditions -/

theorem Connector.neutral_keyword (c : Connector) : Neutral c.keyword := by
  cases c <;> decide

theorem Quantifier.neutral_keyword (q : Quantifier) : Neutral q.keyword := by
  cases q <;> decide

/-- The right side of a quantified comparison: a call with one argument. -/
theorem Quantifier.safe_call (q : Quantifier) {m : Marked (Expression Assembled)}
    (h : Safe (.row config) m) :
    Safe ((Reading.expression config).comap fun e => .call q.keyword [e]) m := by
  have hvalues : Expression.isValuesName q.keyword = false := by cases q <;> decide +kernel
  have hchange : Keeps (List.map (q.keyword ++ ·)) :=
    .map (fun ht => q.neutral_keyword.append ht) fun ht => ht.prepend q.neutral_keyword
  refine (h.through hchange).of_eq (fun e => ?_) fun e => ?_
  · exact (Expression.completeAll_iff [e]).trans List.forall_mem_singleton
  · show [Expression.literalText config (.call q.keyword [e])] = _
    rw [Expression.literalText_call, Expression.callText_eq, hvalues]
    simp [Reading.row, commaSeparated, Suffix.attach, Suffix.castText, Suffix.aliasText]

/-- Whether chains are attached does not depend on strings. -/
theorem Conditions.always_hasNested (c : Conditions σ) :
    (c.marked config f).Always fun c' => c'.hasNested = c.hasNested := by
  obtain ⟨predicate, attached⟩ := c
  have hattached : (Attached.markedAll config f attached).Always fun as =>
      as.isEmpty = attached.isEmpty := by
    cases attached with
    | nil => exact Marked.always_pure rfl
    | cons a rest =>
        obtain ⟨connector, conditions⟩ := a
        rw [Attached.markedAll, Marked.always_map]
        exact .of_forall (fun _ => rfl) _
  rw [Conditions.marked, Marked.always_map]
  exact (hattached.right _).mono fun p hp => congrArg not hp

mutual

theorem Conditions.safe_chain (hf : ∀ i, Safe (.assembled config) (f i)) (parentheses : Bool) :
    ∀ c : Conditions σ, Safe (.node config (Conditions.chainNode parentheses)) (c.marked config f)
  | ⟨predicate, attached⟩ => by
      have hnodes := (predicate.safe hf).only.append (Attached.safe hf attached)
      rw [Conditions.marked]
      exact (hnodes.around parentheses).mapEq (fun _ => Iff.rfl) fun _ => rfl

theorem Predicate.safe (hf : ∀ i, Safe (.assembled config) (f i)) : ∀ p : Predicate σ,
    Safe (.node config Predicate.node) (p.marked config f)
  | .compare left operator right => .withRaw fun h =>
      ((left.safe hf).operation (List.forall_mem_singleton.mp h) (right.safe hf)).mapEq
        (fun _ => Iff.rfl) fun _ => rfl
  | .trailing operand operator => .withRaw fun h =>
      ((operand.safe hf).trailing (List.forall_mem_singleton.mp h)).mapEq
        (fun _ => Iff.rfl) fun _ => rfl
  | .between left low high negated => by
      have hword : Neutral (if negated then Keyword.notBetween else Keyword.between) := by
        cases negated <;> decide
      have hbounds := (low.safe hf).operation (by decide : Neutral Keyword.and) (high.safe hf)
      rw [Predicate.marked]
      exact ((left.safe hf).operationNode hword hbounds).mapEq (fun _ => Iff.rfl) fun _ => rfl
  | .existence operand negated => by
      have hword : Neutral (if negated then Keyword.notExists else Keyword.exists_) := by
        cases negated <;> decide
      rw [Predicate.marked]
      exact ((operand.safe hf).token.leafClause hword neutral_defaultDelimiter).mapEq
        (fun _ => Iff.rfl) fun _ => rfl
  | .membership left right negated => by
      have hword : Neutral (if negated then Keyword.notIn else Keyword.in_) := by
        cases negated <;> decide
      rw [Predicate.marked]
      exact ((left.safe hf).operation hword (right.safe hf)).mapEq (fun _ => Iff.rfl) fun _ => rfl
  | .quantified left operator quantifier right => .withRaw fun h =>
      ((left.safe hf).operation (List.forall_mem_singleton.mp h)
        (quantifier.safe_call (right.safe hf).row)).mapEq (fun _ => Iff.rfl) fun _ => rfl
  | .group conditions => (conditions.safe_chain hf true).mapEq (fun _ => Iff.rfl) fun _ => rfl

theorem Attached.safe (hf : ∀ i, Safe (.assembled config) (f i)) : ∀ as : List (Attached σ),
    Safe (.nodes config Attached.nodes) (Attached.markedAll config f as)
  | [] => .blank rfl
  | ⟨connector, conditions⟩ :: rest => by
      -- The parentheses follow the chain itself, so its form has to be fixed first.
      have hchain : Safe (.node config fun c => c.chainNode c.hasNested)
          (conditions.marked config f) := by
        refine (conditions.safe_chain hf conditions.hasNested).node_congr
          (conditions.always_hasNested.mono fun c hc => ?_)
        rw [hc]
      have hclause := hchain.only.nodeClause connector.neutral_keyword neutral_defaultDelimiter
      exact (hclause.only.append (Attached.safe hf rest)).mapEq (fun _ => Iff.rfl) fun _ => rfl

end

theorem Conditions.safe (hf : ∀ i, Safe (.assembled config) (f i)) (c : Conditions σ) :
    Safe (.node config Conditions.node) (c.marked config f) := c.safe_chain hf false

/-! ## Clauses -/

/-- Whether a list of parts is empty does not depend on strings. -/
theorem Marked.always_isEmpty_list {α : Type} (ms : List (Marked α)) :
    (list ms).Always fun as => as.isEmpty = ms.isEmpty :=
  (always_length_list ms).mono fun as h => by
    cases as <;> cases ms <;> first | rfl | cases h

namespace Clause

variable {keyword : String} (hkeyword : Neutral keyword)
  (hf : ∀ i, Safe (.assembled config) (f i))

include hkeyword

theorem safe_listNodes {α : Type} {ms : List (Marked α)} {e : α → Expression Assembled}
    (h : ∀ m ∈ ms, Safe ((Reading.expression config).comap e) m) :
    Safe (.nodes config fun as => listNodes keyword (as.map e)) (.list ms) := by
  cases hms : ms.isEmpty with
  | true =>
      rw [List.isEmpty_iff.mp hms]
      exact .blank rfl
  | false =>
      refine ((Safe.tokens h).leafClause hkeyword neutral_listDelimiter).only.nodes_congr
        ((Marked.always_isEmpty_list ms).mono fun as has => ?_)
      have hitems : (as.map e).isEmpty = false := by rw [List.isEmpty_map, has, hms]
      rw [listNodes, hitems, List.map_map]
      rfl

include hf

theorem safe_list (es : List (Expression σ)) :
    Safe (.nodes config (listNodes keyword)) (Expression.markedEach config f es) :=
  (safe_listNodes hkeyword (e := id) (Expression.safeAll hf es)).nodes_congr
    (.of_forall (fun es => by rw [List.map_id]) _)

theorem safe_expression (e : Option (Expression σ)) :
    Safe (.nodes config (expressionNodes keyword)) (Expression.markedOption config f e) := by
  cases e with
  | none => exact .blank rfl
  | some e =>
      have htoken := Safe.token (e.safe hf)
      exact .map (htoken.leafClause hkeyword neutral_defaultDelimiter).only

theorem safe_conditions (c : Option (Conditions σ)) :
    Safe (.nodes config (conditionsNodes keyword)) (Conditions.markedOption config f c) := by
  cases c with
  | none => exact .blank rfl
  | some c => exact .map ((c.safe hf).only.nodeClause hkeyword neutral_defaultDelimiter).only

end Clause

theorem JoinKind.neutral_keyword (k : JoinKind) : Neutral k.keyword := by
  cases k <;> decide

theorem Join.safe (hf : ∀ i, Safe (.assembled config) (f i)) (j : Join σ) :
    Safe (.node config Join.node) (j.marked config f) := by
  have htable := Safe.token (j.table.safe hf)
  have hcondition := Clause.safe_conditions (by decide : Neutral Keyword.on) hf j.condition
  exact (htable.clause j.kind.neutral_keyword neutral_defaultDelimiter hcondition).mapEq
    (fun _ => Iff.rfl) fun _ => rfl

namespace OrderElement

/-- An element: its key with keywords behind it. -/
theorem safe (hf : ∀ i, Safe (.assembled config) (f i)) (o : OrderElement σ) :
    Safe (.node config OrderElement.node) (o.marked config f) := by
  let words : List (Token Assembled) :=
    .keyword o.direction.keyword :: o.nulls.toList.map fun place => .keyword place.keyword
  have hwords : Safe (.tokens config fun _ : Unit => words) (.pure ()) := by
    refine .pure (List.forall_mem_map.mpr (List.forall_mem_cons.mpr
      ⟨?_, List.forall_mem_map.mpr fun place _ => ?_⟩))
    · rw [Token.literalText_keyword]
      cases o.direction <;> decide
    · rw [Token.literalText_keyword]
      cases place <;> decide
  have hleaves := ((Safe.token (o.key.safe hf)).appendTokens hwords).unpair
  exact (hleaves.sequence neutral_defaultDelimiter).mapEq (fun _ => Iff.rfl) fun _ => rfl

theorem safe_clauseNodes (hf : ∀ i, Safe (.assembled config) (f i))
    (os : List (OrderElement σ)) :
    Safe (.nodes config clauseNodes) (.list (os.map (OrderElement.marked config f))) := by
  have hjoined := Safe.joined (by decide : Neutral Keyword.orderBy)
    (List.forall_mem_map.mpr fun o (_ : o ∈ os) => o.safe hf)
  cases os with
  | nil => exact .blank rfl
  | cons o rest =>
      refine hjoined.only.nodes_congr ((Marked.always_isEmpty_list _).mono fun os hos => ?_)
      rw [clauseNodes, hos]
      rfl

end OrderElement

end SqlBuilder
