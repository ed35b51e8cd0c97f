import Mathlib.Algebra.BigOperators.Ring.List
import Mathlib.Algebra.GroupWithZero.Nat
import Mathlib.Data.List.Forall2
import SqlBuilder.Postgres.Wire

/-!
# Reading the binary format of arrays

The format is given by its reader, `PgArray.reader`, which knows nothing of how arrays
are written: the number of dimensions, the null flag, the number of the element type, the
length and the lower bound of each dimension, and then as many elements as the dimensions
call for, each behind its length. Elements are of any length, so that a reader that is
wrong about one of them is wrong about all that follow. `ReadsBack` therefore says of each
part what is read off the front and that whatever stands behind it is left.
-/

namespace SqlBuilder

/-- A reader takes what it reads off the front of some bytes. -/
abbrev ByteReader := StateT (List UInt8) Option

/-! ## Numbers -/

namespace Wire

/-- The number that bytes stand for, the highest first. -/
def number : List UInt8 → Nat
  | [] => 0
  | b :: rest => b.toNat * Nat.pow 256 rest.length + number rest

/-- The number that bytes stand for in two's complement. -/
def signedNumber (bytes : List UInt8) : Int :=
  (number bytes : Int).bmod (Nat.pow 256 bytes.length)

@[simp] theorem length_bigEndian (width n : Nat) : (bigEndian width n).length = width := by
  induction width with
  | zero => rfl
  | succ width ih => rw [bigEndian, List.length_cons, ih]

@[simp] theorem length_signed (width : Nat) (n : Int) : (signed width n).length = width :=
  length_bigEndian ..

/-- What is cut off is what does not fit. -/
theorem number_bigEndian (width n : Nat) :
    number (bigEndian width n) = n % Nat.pow 256 width := by
  induction width with
  | zero => exact (Nat.mod_one n).symm
  | succ width ih =>
      have hbyte : (UInt8.ofNat (n / Nat.pow 256 width)).toNat = n / Nat.pow 256 width % 256 :=
        UInt8.toNat_ofNat'
      have hpow : Nat.pow 256 (width + 1) = Nat.pow 256 width * 256 := rfl
      rw [bigEndian, number, length_bigEndian, ih, hbyte, hpow, Nat.mod_mul, Nat.mul_comm,
        Nat.add_comm]

theorem signedNumber_signed {width : Nat} {n : Int} (hlow : -(Nat.pow 256 width : Nat) ≤ n * 2)
    (hhigh : n * 2 < (Nat.pow 256 width : Nat)) : signedNumber (signed width n) = n := by
  let size := Nat.pow 256 width
  have hsize : (size : Int) ≠ 0 := by
    have : 0 < size := Nat.pow_pos (by decide)
    omega
  have hnonneg : 0 ≤ n % size := Int.emod_nonneg n hsize
  have hlt : (n % size).toNat < size := by
    have := Int.emod_lt_of_pos n (b := size) (by omega)
    omega
  rw [signedNumber, length_signed, signed, number_bigEndian, Nat.mod_eq_of_lt hlt,
    Int.toNat_of_nonneg hnonneg, Int.emod_bmod]
  exact Int.bmod_eq_of_le_mul_two hlow hhigh

end Wire

/-! ## Readers -/

namespace ByteReader

variable {α β : Type}

/-- So many bytes. -/
def take (n : Nat) : ByteReader (List UInt8) := fun bytes =>
  if n ≤ bytes.length then some (bytes.splitAt n) else none

/-- A signed number in four bytes. -/
def int : ByteReader Int := Wire.signedNumber <$> take 4

/-- The same, one after the other. -/
def times (r : ByteReader α) : Nat → ByteReader (List α)
  | 0 => pure []
  | n + 1 => do return (← r) :: (← times r n)

/-- A signed number that counts something. -/
def count : ByteReader Nat := do
  let n ← int
  if 0 ≤ n then return n.toNat else failure

end ByteReader

namespace PgArray

/-- What the bytes of an array say. -/
structure Content where
  hasNull : Bool
  elementOid : Nat
  dimensions : List Dimension
  elements : List WireValue

/-- The number of elements that dimensions call for. -/
def elementCount : List Dimension → Nat
  | [] => 0
  | dimensions => (dimensions.map Dimension.length).prod

def readFlag : ByteReader Bool := do
  match ← ByteReader.int with
  | 0 => return false
  | 1 => return true
  | _ => failure

def readDimension : ByteReader Dimension := do
  return { length := ← ByteReader.count, lowerBound := ← ByteReader.int }

/-- An element behind its length, or null. -/
def readElement : ByteReader WireValue := do
  let n ← ByteReader.int
  if n = -1 then return none
  if 0 ≤ n then some <$> ByteReader.take n.toNat else failure

/-- An array in the binary format. -/
def reader : ByteReader Content := do
  let rank ← ByteReader.count
  let hasNull ← readFlag
  let elementOid ← Wire.number <$> ByteReader.take 4
  let dimensions ← readDimension.times rank
  let elements ← readElement.times (elementCount dimensions)
  return { hasNull, elementOid, dimensions, elements }

end PgArray

/-! ## What is read back -/

/-- The bytes, and nothing behind them, are read as a value. -/
def ReadsBack {α : Type} (r : ByteReader α) (bytes : List UInt8) (a : α) : Prop :=
  ∀ rest, r.run (bytes ++ rest) = some (a, rest)

namespace ReadsBack

variable {α β : Type} {r : ByteReader α} {a : α} {bytes : List UInt8}

theorem pure (a : α) : ReadsBack (Pure.pure a) [] a := fun _ => rfl

theorem bind {f : α → ByteReader β} {b : β} {behind : List UInt8} (h : ReadsBack r bytes a)
    (hf : ReadsBack (f a) behind b) : ReadsBack (r >>= f) (bytes ++ behind) b := by
  intro rest
  rw [StateT.run_bind, List.append_assoc, h]
  exact hf rest

theorem map (f : α → β) (h : ReadsBack r bytes a) : ReadsBack (f <$> r) bytes (f a) := by
  intro rest
  rw [StateT.run_map, h]
  rfl

/-- Nothing is read behind the last part; a result is made of it. -/
theorem last {f : α → ByteReader β} {b : β} (h : ReadsBack r bytes a) (hf : f a = Pure.pure b) :
    ReadsBack (r >>= f) bytes b := by
  intro rest
  rw [StateT.run_bind, h]
  show (f a).run rest = _
  rw [hf]
  rfl

theorem take (bytes : List UInt8) : ReadsBack (ByteReader.take bytes.length) bytes bytes := by
  intro rest
  have hlength : bytes.length ≤ (bytes ++ rest).length := by
    rw [List.length_append]
    omega
  show (if bytes.length ≤ (bytes ++ rest).length then _ else _) = _
  rw [if_pos hlength, List.splitAt_eq, List.take_left, List.drop_left]

theorem times {chunks : List (List UInt8)} {values : List α}
    (h : List.Forall₂ (ReadsBack r) chunks values) :
    ReadsBack (r.times values.length) chunks.flatten values := by
  induction h with
  | nil => exact pure []
  | @cons chunk value chunks values hvalue _ ih =>
      show ReadsBack (r >>= fun a => r.times values.length >>= fun as => Pure.pure (a :: as)) _ _
      exact hvalue.bind (ih.last rfl)

theorem int {n : Int} (hlow : -2147483648 ≤ n) (hhigh : n ≤ 2147483647) :
    ReadsBack ByteReader.int (Wire.signed 4 n) n := by
  have hpow : Nat.pow 256 4 = 4294967296 := rfl
  have hsame : Wire.signedNumber (Wire.signed 4 n) = n :=
    Wire.signedNumber_signed (by rw [hpow]; omega) (by rw [hpow]; omega)
  have h := (take (Wire.signed 4 n)).map Wire.signedNumber
  rwa [Wire.length_signed, hsame] at h

theorem count {n : Nat} (h : n ≤ PgArray.maxLength) :
    ReadsBack ByteReader.count (Wire.signed 4 n) n := by
  have hmax : PgArray.maxLength = 2147483647 := rfl
  have hnonneg : (0 : Int) ≤ n := by omega
  refine (int (n := n) (by omega) (by omega)).last ?_
  show (if 0 ≤ (n : Int) then Pure.pure (n : Int).toNat else failure) = _
  rw [if_pos hnonneg, Int.toNat_natCast]

end ReadsBack

end SqlBuilder
