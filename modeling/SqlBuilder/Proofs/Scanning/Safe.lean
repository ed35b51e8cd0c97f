import SqlBuilder.Proofs.Scanning.Marked
import SqlBuilder.Proofs.Scanning.Scanner

/-!
# Safe places

A place of a string is safe if the texts around it are neutral and are the same
whatever string stands there (`Holds`). What a thing is written to is given by a
`Reading`: a list of texts, and whether there are any at all. `Safe` says that all
texts are neutral and that every marked string has a safe place in one of them.

Safety goes through the ways in which things are made of parts, and through the
changes of lists of texts that a layout is made of (`Keeps`).
-/

namespace SqlBuilder

variable {α β : Type}

/-! ## Texts that hold a string -/

/-- The string stands as a constant between texts that do not depend on it and that a
scanner leaves outside. -/
def Holds (text : String → String) : Prop :=
  ∃ before after, Neutral before ∧ Neutral after
    ∧ ∀ s, text s = before ++ stringConstant s ++ after

namespace Holds

variable {text : String → String} {a b : String}

theorem constant : Holds stringConstant :=
  ⟨"", "", Neutral.empty, Neutral.empty, fun s => by simp⟩

theorem neutral (h : Holds text) (s : String) : Neutral (text s) := by
  obtain ⟨before, after, hbefore, hafter, htext⟩ := h
  rw [htext]
  exact (hbefore.append (neutral_stringConstant s)).append hafter

theorem ne_empty (h : Holds text) (s : String) : text s ≠ "" := by
  obtain ⟨before, after, -, -, htext⟩ := h
  rw [htext]
  exact append_ne_empty_left (append_ne_empty_right (stringConstant_ne_empty s))

theorem between (h : Holds text) (ha : Neutral a) (hb : Neutral b) :
    Holds fun s => a ++ text s ++ b := by
  obtain ⟨before, after, hbefore, hafter, htext⟩ := h
  exact ⟨a ++ before, after ++ b, ha.append hbefore, hafter.append hb, fun s => by
    simp only [htext, String.append_assoc]⟩

theorem append (h : Holds text) (hb : Neutral b) : Holds fun s => text s ++ b := by
  simpa using h.between Neutral.empty hb

theorem prepend (h : Holds text) (ha : Neutral a) : Holds fun s => a ++ text s := by
  simpa using h.between ha Neutral.empty

theorem parenthesize (h : Holds text) : Holds fun s => parenthesize (text s) :=
  h.between (a := "(") (b := ")") (by decide) (by decide)

/-- Among other texts with a delimiter between them, the place is still safe. -/
theorem intercalate {delimiter : String} (hd : Neutral delimiter) {after : List String}
    (h : Holds text) (hafter : ∀ t ∈ after, Neutral t) :
    ∀ before : List String, (∀ t ∈ before, Neutral t) →
      Holds fun s => delimiter.intercalate (before ++ text s :: after)
  | [], _ => by
      cases after with
      | nil => exact h
      | cons t rest =>
          have hrest := hd.append (Neutral.intercalate hd hafter)
          have hholds := h.append hrest
          simpa only [List.nil_append, String.intercalate_cons_cons, String.append_assoc]
            using hholds
  | [t], hbefore => by
      have hrest := intercalate hd h hafter [] (List.forall_mem_nil _)
      have ht := hbefore t (List.mem_singleton_self t)
      have hholds := hrest.prepend (ht.append hd)
      simpa only [List.singleton_append, List.nil_append, String.intercalate_cons_cons]
        using hholds
  | t :: u :: before, hbefore => by
      obtain ⟨ht, hbefore⟩ := List.forall_mem_cons.mp hbefore
      have hholds := (intercalate hd h hafter (u :: before) hbefore).prepend (ht.append hd)
      simpa only [List.cons_append, String.intercalate_cons_cons] using hholds

end Holds

/-- One text of a list holds the string; the others do not depend on it. -/
def HoldsAmong (texts : String → List String) : Prop :=
  ∃ before text after, (∀ t ∈ before, Neutral t) ∧ (∀ t ∈ after, Neutral t) ∧ Holds text
    ∧ ∀ s, texts s = before ++ text s :: after

theorem Holds.among {text : String → String} (h : Holds text) : HoldsAmong fun s => [text s] :=
  ⟨[], text, [], List.forall_mem_nil _, List.forall_mem_nil _, h, fun _ => rfl⟩

theorem HoldsAmong.single {text : String → String} (h : HoldsAmong fun s => [text s]) :
    Holds text := by
  obtain ⟨before, inner, after, -, -, hinner, heq⟩ := h
  have htext (s : String) : text s = inner s := by
    have hs := heq s
    cases before with
    | nil => exact (List.cons.inj hs).1
    | cons t rest => simp at hs
  rwa [funext htext]

/-! ## Changes of lists of texts -/

/-- A change of lists of texts that leaves neutral texts neutral and safe places
safe. -/
structure Keeps (change : List String → List String) : Prop where
  neutral : ∀ {texts : List String}, (∀ t ∈ texts, Neutral t) → ∀ t ∈ change texts, Neutral t
  holds : ∀ {texts : String → List String}, HoldsAmong texts → HoldsAmong fun s => change (texts s)

namespace Keeps

variable {change change' : List String → List String} {texts : List String}

theorem comp (h' : Keeps change') (h : Keeps change) : Keeps (change' ∘ change) :=
  ⟨fun ht => h'.neutral (h.neutral ht), fun ht => h'.holds (h.holds ht)⟩

/-- Every text is changed by itself. -/
theorem map {change : String → String} (hneutral : ∀ {t}, Neutral t → Neutral (change t))
    (hholds : ∀ {text}, Holds text → Holds fun s => change (text s)) :
    Keeps (List.map change) where
  neutral ht t hmem := by
    obtain ⟨u, hu, rfl⟩ := List.mem_map.mp hmem
    exact hneutral (ht u hu)
  holds := by
    rintro texts ⟨before, text, after, hbefore, hafter, htext, heq⟩
    refine ⟨before.map change, fun s => change (text s), after.map change, ?_, ?_, hholds htext,
      fun s => by simp only [heq, List.map_append, List.map_cons]⟩
    · intro t hmem
      obtain ⟨u, hu, rfl⟩ := List.mem_map.mp hmem
      exact hneutral (hbefore u hu)
    · intro t hmem
      obtain ⟨u, hu, rfl⟩ := List.mem_map.mp hmem
      exact hneutral (hafter u hu)

theorem parenthesize : Keeps (List.map parenthesize) := map Neutral.parenthesize Holds.parenthesize

theorem parenthesizeIf (parentheses : Bool) :
    Keeps (List.map fun t => if parentheses then SqlBuilder.parenthesize t else t) := by
  cases parentheses with
  | true => exact parenthesize
  | false => exact map id id

theorem between {a b : String} (ha : Neutral a) (hb : Neutral b) :
    Keeps (List.map fun t => a ++ t ++ b) :=
  map (fun ht => (ha.append ht).append hb) fun h => h.between ha hb

/-- What is empty is dropped, but a string constant is not. -/
theorem shown : Keeps (List.filter (· != "")) where
  neutral ht t hmem := ht t (List.mem_filter.mp hmem).1
  holds := by
    rintro texts ⟨before, text, after, hbefore, hafter, htext, heq⟩
    refine ⟨before.filter (· != ""), text, after.filter (· != ""),
      fun t hmem => hbefore t (List.mem_filter.mp hmem).1,
      fun t hmem => hafter t (List.mem_filter.mp hmem).1, htext, fun s => ?_⟩
    simp only [heq]
    rw [List.filter_append, List.filter_cons_of_pos (by simpa using htext.ne_empty s)]

theorem intercalate {delimiter : String} (hd : Neutral delimiter) :
    Keeps fun texts => [delimiter.intercalate texts] where
  neutral ht t hmem := by
    rw [List.mem_singleton.mp hmem]
    exact Neutral.intercalate hd ht
  holds := by
    rintro texts ⟨before, text, after, hbefore, hafter, htext, heq⟩
    simp only [heq]
    exact (Holds.intercalate hd htext hafter before hbefore).among

theorem joinedItems {delimiter : String} (hd : Neutral delimiter) :
    Keeps (joinedItems delimiter) where
  neutral {texts} ht := by
    have hshown := shown.neutral ht
    unfold SqlBuilder.joinedItems
    split
    · exact List.forall_mem_nil _
    · exact (intercalate hd).neutral hshown
  holds := by
    intro texts htexts
    obtain ⟨before, text, after, hbefore, hafter, htext, heq⟩ := shown.holds htexts
    -- The constant always shows, so what is joined is never the empty list.
    have hjoined (s : String) : SqlBuilder.joinedItems delimiter (texts s)
        = [delimiter.intercalate (before ++ text s :: after)] := by
      have hshown : (texts s).filter (· != "") = before ++ text s :: after := heq s
      unfold SqlBuilder.joinedItems
      rw [hshown]
      cases before <;> rfl
    simp only [hjoined]
    exact (Holds.intercalate hd htext hafter before hbefore).among

theorem behind (h : ∀ t ∈ texts, Neutral t) : Keeps (texts ++ ·) where
  neutral ht := List.forall_mem_append.mpr ⟨h, ht⟩
  holds := by
    rintro _ ⟨before, text, after, hbefore, hafter, htext, heq⟩
    exact ⟨texts ++ before, text, after, List.forall_mem_append.mpr ⟨h, hbefore⟩, hafter, htext,
      fun s => by simp only [heq, List.append_assoc]⟩

theorem inFront (h : ∀ t ∈ texts, Neutral t) : Keeps (· ++ texts) where
  neutral ht := List.forall_mem_append.mpr ⟨ht, h⟩
  holds := by
    rintro _ ⟨before, text, after, hbefore, hafter, htext, heq⟩
    exact ⟨before, text, after ++ texts, hbefore, List.forall_mem_append.mpr ⟨hafter, h⟩, htext,
      fun s => by simp only [heq, List.append_assoc, List.cons_append]⟩

end Keeps

/-! ## Readings -/

/-- What things are written to, and which of them are written at all. -/
structure Reading (α : Type) where
  ok : α → Prop
  texts : α → List String

namespace Reading

/-- Each thing is written to a text. -/
def single (ok : α → Prop) (text : α → String) : Reading α := ⟨ok, fun a => [text a]⟩

def comap (R : Reading β) (g : α → β) : Reading α := ⟨fun a => R.ok (g a), fun a => R.texts (g a)⟩

/-- The texts of two parts, one after the other. -/
def both (R : Reading α) (Q : Reading β) : Reading (α × β) :=
  ⟨fun p => R.ok p.1 ∧ Q.ok p.2, fun p => R.texts p.1 ++ Q.texts p.2⟩

def each (R : Reading α) : Reading (List α) :=
  ⟨fun as => ∀ a ∈ as, R.ok a, fun as => as.flatMap R.texts⟩

/-- The same with a change of the texts. -/
def through (change : List String → List String) (R : Reading α) : Reading α :=
  ⟨R.ok, fun a => change (R.texts a)⟩

@[simp] theorem texts_single (ok : α → Prop) (text : α → String) (a : α) :
    (single ok text).texts a = [text a] := rfl

@[simp] theorem texts_both (R : Reading α) (Q : Reading β) (p : α × β) :
    (R.both Q).texts p = R.texts p.1 ++ Q.texts p.2 := rfl

@[simp] theorem ok_both (R : Reading α) (Q : Reading β) (p : α × β) :
    (R.both Q).ok p = (R.ok p.1 ∧ Q.ok p.2) := rfl

@[simp] theorem texts_through (change : List String → List String) (R : Reading α) (a : α) :
    (R.through change).texts a = change (R.texts a) := rfl

@[simp] theorem ok_through (change : List String → List String) (R : Reading α) (a : α) :
    (R.through change).ok a = R.ok a := rfl

@[simp] theorem texts_each_single (ok : α → Prop) (text : α → String) (as : List α) :
    (single ok text).each.texts as = as.map text := List.map_eq_flatMap.symm

end Reading

namespace Marked

/-- Whatever string is put in whatever place. -/
def Always (P : α → Prop) (m : Marked α) : Prop :=
  P m.whole ∧ ∀ p ∈ m.strings, ∀ s, P (p.put s)

/-- Nothing is written as it is but neutral texts. -/
structure Tame (m : Marked α) : Prop where
  raw : ∀ t ∈ m.raw, Neutral t
  dollarStrings : m.dollarStrings = []

theorem Always.of_forall {P : α → Prop} (h : ∀ a, P a) (m : Marked α) : m.Always P :=
  ⟨h m.whole, fun p _ s => h (p.put s)⟩

theorem always_pure {P : α → Prop} {a : α} (h : P a) : (pure a).Always P :=
  ⟨h, List.forall_mem_nil _⟩

theorem always_map {P : β → Prop} {g : α → β} {m : Marked α} :
    (m.map g).Always P ↔ m.Always fun a => P (g a) := by
  unfold Always map
  rw [List.forall_mem_map]
  rfl

theorem always_withRaw {P : α → Prop} {raw : List String} {m : Marked α} :
    (m.withRaw raw).Always P ↔ m.Always P := Iff.rfl

theorem Always.pair {P : α → Prop} {Q : β → Prop} {m : Marked α} {n : Marked β}
    (hm : m.Always P) (hn : n.Always Q) : (m.pair n).Always fun p => P p.1 ∧ Q p.2 := by
  refine ⟨⟨hm.1, hn.1⟩, List.forall_mem_append.mpr ⟨?_, ?_⟩⟩
  · exact List.forall_mem_map.mpr fun p hp s => ⟨hm.2 p hp s, hn.1⟩
  · exact List.forall_mem_map.mpr fun p hp s => ⟨hm.1, hn.2 p hp s⟩

theorem Always.mono {P Q : α → Prop} {m : Marked α} (h : m.Always P) (hPQ : ∀ a, P a → Q a) :
    m.Always Q :=
  ⟨hPQ _ h.1, fun p hp s => hPQ _ (h.2 p hp s)⟩

theorem Always.left {P : α → Prop} {m : Marked α} (h : m.Always P) (n : Marked β) :
    (m.pair n).Always fun p => P p.1 :=
  (h.pair (.of_forall (fun _ => trivial) n)).mono fun _ hp => hp.1

theorem Always.right {P : β → Prop} {n : Marked β} (h : n.Always P) (m : Marked α) :
    (m.pair n).Always fun p => P p.2 :=
  (Always.pair (.of_forall (fun _ => trivial) m) h).mono fun _ hp => hp.2

/-- A list of parts has always the same length. -/
theorem always_length_list : ∀ ms : List (Marked α),
    (list ms).Always fun as => as.length = ms.length
  | [] => always_pure rfl
  | m :: rest => by
      have hrest := (always_length_list rest).right m
      exact always_map.mpr (hrest.mono fun p hp => congrArg (· + 1) hp)

theorem always_isSome_option : ∀ m : Option (Marked α),
    (option m).Always fun a => a.isSome = m.isSome
  | none => always_pure rfl
  | some _ => always_map.mpr (Always.of_forall (fun _ => rfl) _)

end Marked

/-! ## Safety -/

/-- If nothing but neutral texts is written as it is, and if the whole is written at
all, then all of its texts are neutral, and every string has a safe place. -/
def Safe (R : Reading α) (m : Marked α) : Prop :=
  m.Tame → R.ok m.whole →
    (∀ t ∈ R.texts m.whole, Neutral t)
      ∧ ∀ p ∈ m.strings, (∀ s, R.ok (p.put s)) ∧ HoldsAmong fun s => R.texts (p.put s)

namespace Safe

variable {R : Reading α} {Q : Reading β} {m : Marked α} {n : Marked β}

theorem pure {a : α} (h : ∀ t ∈ R.texts a, Neutral t) : Safe R (.pure a) :=
  fun _ _ => ⟨h, List.forall_mem_nil _⟩

/-- Where nothing is written, nothing can go wrong. -/
theorem blank {a : α} (h : R.texts a = []) : Safe R (.pure a) :=
  pure (h ▸ List.forall_mem_nil _)

theorem map {g : α → β} (h : Safe (Q.comap g) m) : Safe Q (m.map g) := by
  intro htame hok
  obtain ⟨hneutral, hstrings⟩ := h ⟨htame.raw, htame.dollarStrings⟩ hok
  exact ⟨hneutral, List.forall_mem_map.mpr hstrings⟩

theorem pair (hm : Safe R m) (hn : Safe Q n) : Safe (R.both Q) (m.pair n) := by
  intro htame hok
  obtain ⟨hrawm, hrawn⟩ := List.forall_mem_append.mp htame.raw
  obtain ⟨hdollarm, hdollarn⟩ := List.append_eq_nil_iff.mp htame.dollarStrings
  obtain ⟨hneutralm, hstringsm⟩ := hm ⟨hrawm, hdollarm⟩ hok.1
  obtain ⟨hneutraln, hstringsn⟩ := hn ⟨hrawn, hdollarn⟩ hok.2
  refine ⟨List.forall_mem_append.mpr ⟨hneutralm, hneutraln⟩,
    List.forall_mem_append.mpr ⟨?_, ?_⟩⟩
  · refine List.forall_mem_map.mpr fun p hp => ?_
    obtain ⟨hokp, hholds⟩ := hstringsm p hp
    exact ⟨fun s => ⟨hokp s, hok.2⟩, (Keeps.inFront hneutraln).holds hholds⟩
  · refine List.forall_mem_map.mpr fun p hp => ?_
    obtain ⟨hokp, hholds⟩ := hstringsn p hp
    exact ⟨fun s => ⟨hok.1, hokp s⟩, (Keeps.behind hneutralm).holds hholds⟩

/-- What has no strings in it may be left out in front. -/
theorem unpairLeft {R : Reading (β × α)} {b : β} (h : Safe R ((Marked.pure b).pair m)) :
    Safe (R.comap fun a => (b, a)) m := by
  intro htame hok
  obtain ⟨hneutral, hstrings⟩ := h ⟨htame.raw, htame.dollarStrings⟩ hok
  exact ⟨hneutral, fun p hp => hstrings (p.map (b, ·)) (List.mem_map_of_mem hp)⟩

/-- What has no strings in it may be left out behind. -/
theorem unpair {R : Reading (α × β)} {b : β} (h : Safe R (m.pair (.pure b))) :
    Safe (R.comap fun a => (a, b)) m := by
  intro htame hok
  have htame' : (m.pair (.pure b)).Tame :=
    ⟨List.forall_mem_append.mpr ⟨htame.raw, List.forall_mem_nil _⟩,
      (List.append_nil m.dollarStrings).trans htame.dollarStrings⟩
  obtain ⟨hneutral, hstrings⟩ := h htame' hok
  refine ⟨hneutral, fun p hp => hstrings (p.map (·, b)) ?_⟩
  exact List.mem_append_left _ (List.mem_map_of_mem hp)

theorem through {change : List String → List String} (hchange : Keeps change) (h : Safe R m) :
    Safe (R.through change) m := by
  intro htame hok
  obtain ⟨hneutral, hstrings⟩ := h htame hok
  exact ⟨hchange.neutral hneutral, fun p hp =>
    ⟨(hstrings p hp).1, hchange.holds (hstrings p hp).2⟩⟩

/-- Readings that agree on all that a marked thing can be, as far as it is written. -/
theorem congr {R' : Reading α} (h : Safe R m)
    (heq : m.Always fun a => (R'.ok a ↔ R.ok a) ∧ (R.ok a → R'.texts a = R.texts a)) :
    Safe R' m := by
  intro htame hok
  have hok := heq.1.1.mp hok
  obtain ⟨hneutral, hstrings⟩ := h htame hok
  refine ⟨heq.1.2 hok ▸ hneutral, fun p hp => ?_⟩
  obtain ⟨hokp, hholds⟩ := hstrings p hp
  refine ⟨fun s => (heq.2 p hp s).1.mpr (hokp s), ?_⟩
  have htexts (s : String) : R'.texts (p.put s) = R.texts (p.put s) := (heq.2 p hp s).2 (hokp s)
  simpa only [htexts] using hholds

theorem of_eq {R' : Reading α} (h : Safe R m) (hok : ∀ a, R'.ok a ↔ R.ok a)
    (htexts : ∀ a, R'.texts a = R.texts a) : Safe R' m :=
  h.congr (.of_forall (fun a => ⟨hok a, fun _ => htexts a⟩) m)

/-- A thing made of a part and written to the texts of that part. -/
theorem mapEq {g : α → β} (h : Safe R m) (hok : ∀ a, Q.ok (g a) ↔ R.ok a)
    (htexts : ∀ a, Q.texts (g a) = R.texts a) : Safe Q (m.map g) :=
  map (h.of_eq hok htexts)

/-- What is written as it is may be taken to be neutral. -/
theorem withRaw {raw : List String} (h : (∀ t ∈ raw, Neutral t) → Safe R m) :
    Safe R (m.withRaw raw) := by
  intro htame hok
  obtain ⟨hraw, hrest⟩ := List.forall_mem_append.mp htame.raw
  exact h hraw ⟨hrest, htame.dollarStrings⟩ hok

theorem cons {n : Marked (List α)} (hm : Safe R m) (hn : Safe R.each n) :
    Safe R.each ((m.pair n).map fun p => p.1 :: p.2) :=
  (hm.pair hn).mapEq (fun _ => List.forall_mem_cons) fun _ => List.flatMap_cons ..

theorem list : ∀ {ms : List (Marked α)}, (∀ m ∈ ms, Safe R m) → Safe R.each (.list ms)
  | [], _ => blank rfl
  | m :: rest, h => by
      obtain ⟨hm, hrest⟩ := List.forall_mem_cons.mp h
      exact hm.cons (list hrest)

end Safe

end SqlBuilder
