import SqlBuilder.Proofs.Arrays.Accepted
import SqlBuilder.Proofs.Arrays.Reader

/-!
# Arrays in the binary format

Whether a type takes a scalar depends on the scalar's kind alone (`Scalar.accepts_congr`),
and all elements of an array are of one kind (`Made.kinds`), so the type of the elements
takes all of them or none that is not null. The dimensions of an array call for just as
many elements as it has (`Made.count`): that is what the reader counts by, and it is read
back whole (`Made.reads_encode`). A length that four bytes cannot say makes encoding fail,
so an array is encoded if and only if its lengths can be said (`Expressible`).
-/

namespace SqlBuilder

/-! ## Functions that may fail on the elements of a list -/

section MapM

variable {ε α β : Type} {f : α → Except ε β} {xs : List α} {ys : List β}

theorem mapM_eq_ok_iff : xs.mapM f = .ok ys ↔ List.Forall₂ (fun x y => f x = .ok y) xs ys := by
  induction xs generalizing ys with
  | nil =>
      rw [List.forall₂_nil_left_iff]
      exact ⟨fun h => (Except.ok.inj h).symm, fun h => h ▸ rfl⟩
  | cons x xs ih =>
      rw [List.mapM_cons, List.forall₂_cons_left_iff]
      cases hx : f x with
      | error e =>
          refine ⟨nofun, ?_⟩
          rintro ⟨y, ys, hy, -⟩
          cases hy
      | ok y =>
          cases hxs : xs.mapM f with
          | error e =>
              refine ⟨nofun, ?_⟩
              rintro ⟨y, ys, -, hys, -⟩
              cases hxs.symm.trans (ih.mpr hys)
          | ok ys' =>
              constructor
              · rintro ⟨⟩
                exact ⟨y, ys', rfl, ih.mp hxs, rfl⟩
              · rintro ⟨_, _, ⟨⟩, hys, rfl⟩
                rw [Except.ok.inj (hxs.symm.trans (ih.mpr hys))]
                rfl

theorem exists_mapM_eq_ok :
    (∃ ys, xs.mapM f = .ok ys) ↔ ∀ x ∈ xs, ∃ y, f x = .ok y := by
  simp only [mapM_eq_ok_iff]
  constructor
  · rintro ⟨ys, hys⟩
    exact ((List.forall₂_and_left ..).mp (hys.imp fun x y hy => ⟨⟨y, hy⟩, hy⟩)).1
  · intro h
    induction xs with
    | nil => exact ⟨[], .nil⟩
    | cons x xs ih =>
        obtain ⟨⟨y, hy⟩, hrest⟩ := List.forall_mem_cons.mp h
        obtain ⟨ys, hys⟩ := ih hrest
        exact ⟨y :: ys, .cons hy hys⟩

end MapM

/-! ## Kinds and types -/

/-- A type takes all scalars of a kind. -/
def PgBaseType.Takes (type : PgBaseType) (kind : ValueKind) : Prop :=
  ∀ s : Scalar, s.kind = kind → s.accepts type = true

theorem Scalar.accepts_congr {s s' : Scalar} (h : s.kind = s'.kind) (type : PgBaseType) :
    s.accepts type = s'.accepts type := by
  cases s <;> cases s' <;> cases h <;> cases type <;> rfl

theorem Scalar.takes_kind_iff {type : PgBaseType} {s : Scalar} :
    type.Takes s.kind ↔ s.accepts type = true :=
  ⟨fun h => h s rfl, fun h _ hkind => (Scalar.accepts_congr hkind type).trans h⟩

theorem Scalar.kind_eq_null_iff {s : Scalar} : s.kind = .null ↔ s.isNull = true := by
  cases s <;> simp [Scalar.kind, Scalar.isNull]

theorem Scalar.accepts_of_isNull {s : Scalar} (h : s.isNull = true) (type : PgBaseType) :
    s.accepts type = true := by
  cases s with
  | null => rfl
  | _ => cases h

theorem Scalar.bytesFor_eq_none_iff {s : Scalar} {type : PgBaseType} :
    s.bytesFor type = none ↔ s.isNull = true := by
  cases s <;> simp [Scalar.bytesFor, Scalar.isNull]

theorem PgParam.encode_scalar {s : Scalar} {type : PgBaseType} (h : s.accepts type = true) :
    PgParam.encode (.scalar s) (.base type) = .ok (s.bytesFor type) := by
  cases s with
  | null => rfl
  | _ => exact if_pos h

/-- One scalar that is not null tells whether a type takes all of its kind. -/
theorem PgBaseType.takes_iff_accepts {type : PgBaseType} {kind : ValueKind}
    {scalars : List Scalar} (hnull : kind = .null ↔ ∀ s ∈ scalars, s.isNull = true)
    (hkind : ∀ s ∈ scalars, s.isNull = false → s.kind = kind) :
    type.Takes kind ↔ ∀ s ∈ scalars, s.accepts type = true := by
  constructor
  · intro htakes s hs
    rcases Bool.eq_false_or_eq_true s.isNull with hs' | hs'
    · exact Scalar.accepts_of_isNull hs' type
    · exact htakes s (hkind s hs hs')
  · intro haccepts
    by_cases hall : ∀ s ∈ scalars, s.isNull = true
    · intro s hs
      rw [hnull.mpr hall] at hs
      exact Scalar.accepts_of_isNull (Scalar.kind_eq_null_iff.mp hs) type
    · simp only [not_forall, Bool.not_eq_true] at hall
      obtain ⟨s, hs, hs'⟩ := hall
      rw [← hkind s hs hs']
      exact Scalar.takes_kind_iff.mpr (haccepts s hs)

namespace PgArray

/-! ## The array of a list of values -/

/-- What is known of an array that was made of values, whatever their lengths. -/
structure Made (values : List Value) (a : PgArray) : Prop where
  elements : a.elements = Value.scalarsAll values
  count : elementCount a.dimensions = a.elements.length
  dimensions : ∀ d ∈ a.dimensions, d.length ≤ maxLength ∧ d.lowerBound = 1
  kinds : ∃ kind, (kind = .null ↔ ∀ s ∈ a.elements, s.isNull = true)
    ∧ ∀ s ∈ a.elements, s.isNull = false → s.kind = kind

theorem Flattened.fits_of_finish {f : Flattened} {a : PgArray} {depth : Nat}
    (hdepth : f.scalarDepth = some depth) (h : f.finish = .ok a) :
    ∀ p ∈ f.lengths, p.2 ≤ maxLength := by
  rw [Flattened.finish, hdepth] at h
  cases hdimensions : f.lengths.mapM dimension with
  | error e =>
      rw [hdimensions] at h
      cases h
  | ok dimensions =>
      intro p hp
      obtain ⟨d, hd⟩ := exists_mapM_eq_ok.mp ⟨dimensions, hdimensions⟩ p hp
      rw [dimension] at hd
      by_cases hle : p.2 ≤ maxLength
      · exact hle
      · rw [if_neg hle] at hd
        cases hd

section Reached

variable {values : List Value} {f : Flattened} {a : PgArray}

theorem Reached.kind_eq {met : List Visit} (h : Reached met f) {s : Scalar} (hs : s ∈ f.elements)
    (hnull : s.isNull = false) : f.kind = some s.kind := by
  rw [h.elements, List.mem_filterMap] at hs
  obtain ⟨v, hv, hscalar⟩ := hs
  cases v with
  | scalar d s' =>
      obtain rfl := Option.some.inj hscalar
      exact (h.kind s'.kind).mpr ⟨d, s', hv, hnull, rfl⟩
  | list _ => cases hscalar
  | ending _ _ => cases hscalar

theorem Reached.kinds (h : Reached (walk values) f) :
    ∃ kind, (kind = .null ↔ ∀ s ∈ f.elements, s.isNull = true)
      ∧ ∀ s ∈ f.elements, s.isNull = false → s.kind = kind := by
  cases hkind : f.kind with
  | none =>
      have hnulls : ∀ s ∈ f.elements, s.isNull = true := by
        intro s hs
        refine (Bool.eq_false_or_eq_true s.isNull).resolve_right fun hnull => ?_
        cases hkind.symm.trans (h.kind_eq hs hnull)
      refine ⟨.null, iff_of_true rfl hnulls, fun s hs hnull => ?_⟩
      cases (hnulls s hs).symm.trans hnull
  | some k =>
      obtain ⟨d, s, hmem, hnull, rfl⟩ := (h.kind k).mp hkind
      have hs : s ∈ f.elements := by
        rw [h.elements]
        exact List.mem_filterMap.mpr ⟨_, hmem, rfl⟩
      refine ⟨s.kind, iff_of_false ?_ ?_, fun s' hs' hnull' => ?_⟩
      · intro hk
        cases (Scalar.kind_eq_null_iff.mp hk).symm.trans hnull
      · intro hall
        cases (hall s hs).symm.trans hnull
      · exact Option.some.inj ((h.kind_eq hs' hnull').symm.trans hkind)

theorem Reached.made (h : Reached (walk values) f) (hfinish : f.finish = .ok a) :
    Made values a := by
  have hscalars : f.elements = Value.scalarsAll values := h.elements.trans (scalars_walk values)
  cases hdepth : f.scalarDepth with
  | none =>
      have hnone : f.elements = [] := by
        rw [hscalars]
        refine Decidable.byContradiction fun hne => ?_
        obtain ⟨depth, hsome⟩ := scalarsAll_ne_nil_iff.mp hne
        cases hdepth.symm.trans (h.depth_eq hsome)
      obtain rfl := Except.ok.inj ((Flattened.finish_of_none hdepth).symm.trans hfinish)
      exact ⟨hnone.symm.trans hscalars, rfl, List.forall_mem_nil _, .null,
        iff_of_true rfl (List.forall_mem_nil _), List.forall_mem_nil _⟩
  | some depth =>
      have hfits := Flattened.fits_of_finish hdepth hfinish
      -- the outermost list ends at the depth zero, so that there is a dimension
      have houter : (0, values.length) ∈ f.lengths := h.length_mem (List.mem_singleton_self values)
      rw [Flattened.finish_of_some hdepth hfits] at hfinish
      split at hfinish
      · rename_i hcount
        obtain rfl := Except.ok.inj hfinish
        refine ⟨hscalars, ?_, ?_, h.kinds⟩
        · obtain ⟨p, lengths, hlengths⟩ := List.exists_cons_of_ne_nil (List.ne_nil_of_mem houter)
          rw [← hcount, hlengths]
          simp only [List.map_cons, elementCount, List.map_map]
          rfl
        · intro d hd
          obtain ⟨p, hp, rfl⟩ := List.mem_map.mp hd
          exact ⟨hfits p hp, rfl⟩
      · cases hfinish

end Reached

theorem made_of_ofValues {values : List Value} {a : PgArray} (h : ofValues values = .ok a) :
    Made values a := by
  have hrun := Reached.nil.run_cases List.Pairwise.nil (walk values)
  rw [ofValues_eq] at h
  cases hf : Flattened.run {} (walk values) with
  | error e =>
      rw [hf] at h
      cases h
  | ok f =>
      rw [hf] at hrun h
      exact hrun.2.made h

/-! ## The parts of an array -/

/-- The lengths of the array can be said in four bytes: the number of dimensions, and the
number of bytes of each element. -/
structure Expressible (type : PgBaseType) (a : PgArray) : Prop where
  dimensions : a.dimensions.length ≤ maxLength
  elements : ∀ s ∈ a.elements, ∀ bytes, s.bytesFor type = some bytes → bytes.length ≤ maxLength

section Parts

variable {type : PgBaseType} {s : Scalar} {bytes : List UInt8}

theorem elementBytes_of_null (h : s.bytesFor type = none) :
    elementBytes type s = .ok (Wire.signed 4 (-1)) := by
  have haccepts := Scalar.accepts_of_isNull (Scalar.bytesFor_eq_none_iff.mp h) type
  simp only [elementBytes, Scalar.encode, if_pos haccepts, h]
  rfl

theorem elementBytes_of_some (haccepts : s.accepts type = true) (h : s.bytesFor type = some bytes) :
    elementBytes type s
      = if bytes.length ≤ maxLength then .ok (Wire.signed 4 bytes.length ++ bytes)
        else .error .tooLarge := by
  simp only [elementBytes, Scalar.encode, if_pos haccepts, h, Wire.count, bind, Except.bind]
  by_cases hle : bytes.length ≤ maxLength
  · rw [if_pos hle, if_pos hle]
    rfl
  · rw [if_neg hle, if_neg hle]

theorem elementBytes_of_not_accepts (h : ¬s.accepts type = true) :
    elementBytes type s = .error .wrongType := by
  simp only [elementBytes, Scalar.encode, if_neg h]
  rfl

theorem exists_elementBytes :
    (∃ bytes, elementBytes type s = .ok bytes)
      ↔ s.accepts type = true
        ∧ ∀ bytes, s.bytesFor type = some bytes → bytes.length ≤ maxLength := by
  by_cases haccepts : s.accepts type = true
  · cases hbytes : s.bytesFor type with
    | none =>
        rw [elementBytes_of_null hbytes]
        exact iff_of_true ⟨_, rfl⟩ ⟨haccepts, nofun⟩
    | some bytes =>
        rw [elementBytes_of_some haccepts hbytes]
        by_cases hle : bytes.length ≤ maxLength
        · rw [if_pos hle]
          exact iff_of_true ⟨_, rfl⟩ ⟨haccepts, fun _ h => Option.some.inj h ▸ hle⟩
        · rw [if_neg hle]
          exact iff_of_false nofun fun h => hle (h.2 bytes rfl)
  · rw [elementBytes_of_not_accepts haccepts]
    exact iff_of_false nofun fun h => haccepts h.1

/-- An element is read back with nothing left over, null by its length of -1. -/
theorem reads_elementBytes (h : elementBytes type s = .ok bytes) :
    ReadsBack readElement bytes (s.bytesFor type) := by
  obtain ⟨haccepts, hshort⟩ := exists_elementBytes.mp ⟨bytes, h⟩
  cases hvalue : s.bytesFor type with
  | none =>
      obtain rfl := Except.ok.inj ((elementBytes_of_null hvalue).symm.trans h)
      exact (ReadsBack.int (by omega) (by omega)).last rfl
  | some content =>
      have hle := hshort content hvalue
      rw [elementBytes_of_some haccepts hvalue, if_pos hle] at h
      obtain rfl := Except.ok.inj h
      have hmax : maxLength = 2147483647 := rfl
      have hlength := ReadsBack.int (n := content.length) (by omega) (by omega)
      refine hlength.bind ?_
      have hnull : (content.length : Int) ≠ -1 := by omega
      have hcount : 0 ≤ (content.length : Int) := by omega
      show ReadsBack (if (content.length : Int) = -1 then _ else _) _ _
      rw [if_neg hnull]
      show ReadsBack (if 0 ≤ (content.length : Int) then _ else _) _ _
      rw [if_pos hcount]
      exact (ReadsBack.take content).map some

theorem reads_dimensionBytes {d : Dimension} (hlength : d.length ≤ maxLength)
    (hbound : d.lowerBound = 1) : ReadsBack readDimension (dimensionBytes d) d := by
  have hlower : ReadsBack ByteReader.int (Wire.signed 4 d.lowerBound) d.lowerBound := by
    rw [hbound]
    exact ReadsBack.int (by omega) (by omega)
  exact (ReadsBack.count hlength).bind (hlower.last rfl)

theorem reads_flag (b : Bool) : ReadsBack readFlag (Wire.signed 4 (if b then 1 else 0)) b := by
  cases b with
  | false => exact (ReadsBack.int (by omega) (by omega)).last rfl
  | true => exact (ReadsBack.int (by omega) (by omega)).last rfl

theorem reads_oid (type : PgBaseType) :
    ReadsBack (Wire.number <$> ByteReader.take 4) (Wire.bigEndian 4 type.oid) type.oid := by
  have hsame : Wire.number (Wire.bigEndian 4 type.oid) = type.oid :=
    (Wire.number_bigEndian 4 type.oid).trans (Nat.mod_eq_of_lt type.oid_lt)
  have h := (ReadsBack.take (Wire.bigEndian 4 type.oid)).map Wire.number
  rwa [Wire.length_bigEndian, hsame] at h

end Parts

/-! ## Whole arrays -/

/-- All that stands before the elements. -/
def header (type : PgBaseType) (a : PgArray) : List UInt8 :=
  Wire.signed 4 a.dimensions.length
    ++ (Wire.signed 4 (if a.elements.any Scalar.isNull then 1 else 0)
    ++ (Wire.bigEndian 4 type.oid ++ a.dimensions.flatMap dimensionBytes))

section Whole

variable {type : PgBaseType} {values : List Value} {a : PgArray} {bytes : List UInt8}

theorem encode_eq_ok_iff :
    a.encode type = .ok bytes
      ↔ a.dimensions.length ≤ maxLength ∧ ∃ chunks,
          a.elements.mapM (elementBytes type) = .ok chunks
            ∧ a.header type ++ chunks.flatten = bytes := by
  simp only [encode, Wire.count, bind, Except.bind]
  by_cases hle : a.dimensions.length ≤ maxLength
  · rw [if_pos hle]
    cases a.elements.mapM (elementBytes type) with
    | error e =>
        refine ⟨nofun, ?_⟩
        rintro ⟨-, chunks, hchunks, -⟩
        cases hchunks
    | ok chunks =>
        have hwhole : a.header type ++ chunks.flatten
            = Wire.signed 4 a.dimensions.length
              ++ Wire.signed 4 (if a.elements.any Scalar.isNull then 1 else 0)
              ++ Wire.bigEndian 4 type.oid ++ a.dimensions.flatMap dimensionBytes
              ++ chunks.flatten := by
          simp only [header, List.append_assoc]
        constructor
        · rintro ⟨⟩
          exact ⟨hle, chunks, rfl, hwhole⟩
        · rintro ⟨-, _, ⟨⟩, rfl⟩
          exact congrArg Except.ok hwhole.symm
  · rw [if_neg hle]
    exact iff_of_false nofun fun h => hle h.1

theorem exists_encode_eq_ok :
    (∃ bytes, a.encode type = .ok bytes)
      ↔ (∀ s ∈ a.elements, s.accepts type = true) ∧ a.Expressible type := by
  have hchunks : (∃ chunks, a.elements.mapM (elementBytes type) = .ok chunks) ↔ _ :=
    exists_mapM_eq_ok.trans (forall₂_congr fun s _ => exists_elementBytes)
  constructor
  · rintro ⟨bytes, hencode⟩
    obtain ⟨hrank, chunks, hmapM, -⟩ := encode_eq_ok_iff.mp hencode
    have hall := hchunks.mp ⟨chunks, hmapM⟩
    exact ⟨fun s hs => (hall s hs).1, hrank, fun s hs => (hall s hs).2⟩
  · rintro ⟨haccepts, hrank, hshort⟩
    obtain ⟨chunks, hmapM⟩ := hchunks.mpr fun s hs => ⟨haccepts s hs, hshort s hs⟩
    exact ⟨_, encode_eq_ok_iff.mpr ⟨hrank, chunks, hmapM, rfl⟩⟩

/-- An array is read back with nothing left over. -/
theorem Made.reads_encode (h : Made values a) (hencode : a.encode type = .ok bytes) :
    ReadsBack reader bytes
      ⟨a.elements.any Scalar.isNull, type.oid, a.dimensions, a.elements.map (·.bytesFor type)⟩ := by
  obtain ⟨hrank, chunks, hchunks, rfl⟩ := encode_eq_ok_iff.mp hencode
  have hdimensions : ReadsBack (readDimension.times a.dimensions.length)
      (a.dimensions.flatMap dimensionBytes) a.dimensions := by
    refine ReadsBack.times (List.forall₂_map_left_iff.mpr (List.forall₂_same.mpr fun d hd => ?_))
    obtain ⟨hlength, hbound⟩ := h.dimensions d hd
    exact reads_dimensionBytes hlength hbound
  have helements : ReadsBack (readElement.times (elementCount a.dimensions)) chunks.flatten
      (a.elements.map (·.bytesFor type)) := by
    rw [h.count, ← List.length_map (·.bytesFor type)]
    refine ReadsBack.times (List.forall₂_map_right_iff.mpr ?_)
    exact (mapM_eq_ok_iff.mp hchunks).flip.imp fun _ _ => reads_elementBytes
  rw [header, List.append_assoc, List.append_assoc, List.append_assoc]
  exact (ReadsBack.count hrank).bind ((reads_flag _).bind ((reads_oid type).bind
    (hdimensions.bind (helements.last rfl))))

end Whole

theorem pushArray_of_ofValues {values : List Value} {a : PgArray} (h : ofValues values = .ok a)
    (index : Nat) (params : PgParams) :
    (PgParams.target.bindArray index values params).result = .ok ()
      ∧ (PgParams.target.bindArray index values params).state = params ++ [.array a] := by
  simp only [PgParams.target, PgParams.pushArray, h, and_self]

end PgArray

/-- Nested lists that are an array are bound as this array. Its elements that are not null
are of one kind, and if the type asked for takes this kind, the array is encoded: all of
the bytes are read back, as the dimensions, the null flag, the type and the elements, where
null stands for null and the bytes of a scalar, sent alone, for the scalar. If the type does
not take the kind, there are no bytes. Nor are there any if a number of dimensions or bytes
does not fit the four bytes that the format has for it. -/
theorem encoded_arrays_read_back {values : List Value} {a : PgArray}
    (h : PgArray.ofValues values = .ok a) (type : PgBaseType) :
    let scalars := Value.scalarsAll values
    let sent := PgParam.encode (.array a) (.array type)
    (∀ index params, (PgParams.target.bindArray index values params).result = .ok ()
      ∧ (PgParams.target.bindArray index values params).state = params ++ [.array a])
    ∧ ∃ kind, (kind = .null ↔ ∀ s ∈ scalars, s.isNull = true)
      ∧ (∀ s ∈ scalars, s.isNull = false → s.kind = kind)
      ∧ (type.Takes kind → a.Expressible type → ∃ bytes content,
          sent = .ok (some bytes) ∧ PgArray.reader.run bytes = some (content, [])
          ∧ content.dimensions = a.dimensions
          ∧ (content.hasNull = true ↔ ∃ s ∈ scalars, s.isNull = true)
          ∧ content.elementOid = type.oid
          ∧ List.Forall₂ (fun s w => PgParam.encode (.scalar s) (.base type) = .ok w
              ∧ (w = none ↔ s.isNull = true)) scalars content.elements)
      ∧ (¬type.Takes kind → ∃ e, sent = .error e)
      ∧ (¬a.Expressible type → ∃ e, sent = .error e) := by
  intro scalars sent
  have hmade := PgArray.made_of_ofValues h
  have hscalars : a.elements = scalars := hmade.elements
  obtain ⟨kind, hnull, hkind⟩ := hmade.kinds
  have htakes : type.Takes kind ↔ _ := PgBaseType.takes_iff_accepts hnull hkind
  have hfails (hnot : ¬∃ bytes, a.encode type = .ok bytes) : ∃ e, sent = .error e := by
    cases hencode : a.encode type with
    | ok bytes => exact absurd ⟨bytes, hencode⟩ hnot
    | error e => exact ⟨e, by simp only [sent, PgParam.encode, hencode]; rfl⟩
  rw [← hscalars]
  refine ⟨PgArray.pushArray_of_ofValues h, kind, hnull, hkind, ?_, ?_, ?_⟩
  · intro ht hexpressible
    obtain ⟨bytes, hencode⟩ := PgArray.exists_encode_eq_ok.mpr ⟨htakes.mp ht, hexpressible⟩
    have hread := hmade.reads_encode hencode []
    rw [List.append_nil] at hread
    refine ⟨bytes, _, ?_, hread, rfl, ?_, rfl, ?_⟩
    · simp only [sent, PgParam.encode, hencode]
      rfl
    · exact List.any_eq_true
    · refine List.forall₂_map_right_iff.mpr (List.forall₂_same.mpr fun s hs => ?_)
      exact ⟨PgParam.encode_scalar (htakes.mp ht s hs), Scalar.bytesFor_eq_none_iff⟩
  · intro hnot
    exact hfails fun hexists => hnot (htakes.mpr (PgArray.exists_encode_eq_ok.mp hexists).1)
  · intro hnot
    exact hfails fun hexists => hnot (PgArray.exists_encode_eq_ok.mp hexists).2

/-- A table of two rows with a null in it is read back as numbers of four bytes, and
cannot be sent as texts. -/
theorem encoded_arrays_read_back_table :
    let table := [.array [.scalar (.int32 1), .scalar .null],
      .array [.scalar (.int32 3), .scalar (.int32 4)]]
    ∃ a, PgArray.ofValues table = .ok a ∧ a.Expressible .int4
      ∧ PgBaseType.Takes .int4 .int32 ∧ ¬PgBaseType.Takes .text .int32
      ∧ (∃ bytes content, PgParam.encode (.array a) (.array .int4) = .ok (some bytes)
          ∧ PgArray.reader.run bytes = some (content, [])
          ∧ content.dimensions = [{ length := 2 }, { length := 2 }]
          ∧ content.hasNull = true ∧ content.elementOid = 23
          ∧ content.elements
            = [some [0, 0, 0, 1], none, some [0, 0, 0, 3], some [0, 0, 0, 4]])
      ∧ ∃ e, PgParam.encode (.array a) (.array .text) = .error e := by
  intro table
  let a : PgArray :=
    ⟨[{ length := 2 }, { length := 2 }], [.int32 1, .null, .int32 3, .int32 4]⟩
  have hmade : PgArray.ofValues table = .ok a := rfl
  have htakes : PgBaseType.Takes .int4 (Scalar.kind (.int32 1)) := Scalar.takes_kind_iff.mpr rfl
  have hrefuses : ¬PgBaseType.Takes .text (Scalar.kind (.int32 1)) :=
    fun h => nomatch Scalar.takes_kind_iff.mp h
  have hexpressible : a.Expressible .int4 := by
    refine ⟨by decide, fun s hs bytes hbytes => ?_⟩
    simp only [a, List.mem_cons, List.not_mem_nil, or_false] at hs
    rcases hs with rfl | rfl | rfl | rfl <;> cases hbytes <;> decide
  refine ⟨a, hmade, hexpressible, htakes, hrefuses, ?_, ?_⟩
  · obtain ⟨-, kind, -, hkind, hread, -⟩ := encoded_arrays_read_back hmade .int4
    obtain rfl : Scalar.kind (.int32 1) = kind := hkind _ (List.mem_cons_self ..) rfl
    obtain ⟨bytes, content, hsent, hrun, hdimensions, hnull, hoid, helements⟩ :=
      hread htakes hexpressible
    refine ⟨bytes, content, hsent, hrun, hdimensions, ?_, hoid, ?_⟩
    · exact hnull.mpr ⟨.null, List.mem_cons_of_mem _ (List.mem_cons_self ..), rfl⟩
    · have hencoded := mapM_eq_ok_iff.mpr (helements.imp fun _ _ hword => hword.1)
      exact Except.ok.inj (hencoded.symm.trans rfl)
  · obtain ⟨-, kind, -, hkind, -, hfails, -⟩ := encoded_arrays_read_back hmade .text
    obtain rfl : Scalar.kind (.int32 1) = kind := hkind _ (List.mem_cons_self ..) rfl
    exact hfails hrefuses

/-- One element of more bytes than a length can say: the values are bound as an array, and the
type asked for takes their kind, but there are no bytes. -/
theorem overlong_element_not_encoded :
    let overlong : List UInt8 := List.replicate (PgArray.maxLength + 1) 0
    let values := [.scalar (.bytes overlong)]
    ∃ a, PgArray.ofValues values = .ok a
      ∧ (∀ index params, (PgParams.target.bindArray index values params).result = .ok ()
        ∧ (PgParams.target.bindArray index values params).state = params ++ [.array a])
      ∧ (∀ s ∈ Value.scalarsAll values, s.kind = .bytes)
      ∧ PgBaseType.Takes .bytea .bytes
      ∧ PgParam.encode (.array a) (.array .bytea) = .error .tooLarge := by
  intro overlong values
  have hmade (content : List UInt8) : PgArray.ofValues [.scalar (.bytes content)]
      = .ok ⟨[{ length := 1 }], [.bytes content]⟩ := rfl
  have htakes : PgBaseType.Takes .bytea (Scalar.kind (.bytes overlong)) :=
    Scalar.takes_kind_iff.mpr rfl
  have hlong : ¬overlong.length ≤ PgArray.maxLength := by
    rw [List.length_replicate]
    omega
  have hbytes : Scalar.bytesFor .bytea (.bytes overlong) = some overlong := rfl
  have hfails : PgArray.elementBytes .bytea (.bytes overlong) = .error .tooLarge := by
    rw [PgArray.elementBytes_of_some rfl hbytes, if_neg hlong]
  refine ⟨_, hmade overlong, PgArray.pushArray_of_ofValues (hmade overlong),
    List.forall_mem_singleton.mpr rfl, htakes, ?_⟩
  simp only [PgParam.encode, PgArray.encode, List.mapM_cons, hfails]
  rfl

end SqlBuilder
