import ConsoleMemory.Address

/-!
# Widths, values and byte order

Accesses are one, two or four bytes wide. A value of a width is a bit vector of that many bits, and
it is laid out in memory as its base-256 digits: least significant first in little-endian order,
last in big-endian order.
-/

namespace ConsoleMemory

/-- The three access widths. -/
inductive Width where
  | byte
  | half
  | word
  deriving DecidableEq, Repr

namespace Width

/-- Bytes of an access. -/
def bytes : Width → Nat
  | byte => 1
  | half => 2
  | word => 4

/-- Bits of an access. -/
def bits (w : Width) : Nat := 8 * w.bytes

end Width

/-- A value of a given width. -/
abbrev Value (w : Width) := BitVec w.bits

/-- The order of the bytes of a value in memory. -/
inductive ByteOrder where
  | little
  | big
  deriving DecidableEq, Repr

/-- The number whose base-256 digits, least significant first, are the given bytes. -/
def littleEndian : List UInt8 → Nat
  | [] => 0
  | b :: rest => b.toNat + 256 * littleEndian rest

/-- The first `count` base-256 digits of a number, least significant first. -/
def littleBytes : Nat → Nat → List UInt8
  | 0, _ => []
  | count + 1, n => UInt8.ofNat n :: littleBytes count (n / 256)

theorem length_littleBytes (count n : Nat) : (littleBytes count n).length = count := by
  induction count generalizing n with
  | zero => rfl
  | succ count ih => simp [littleBytes, ih]

theorem littleBytes_littleEndian (bs : List UInt8) :
    littleBytes bs.length (littleEndian bs) = bs := by
  induction bs with
  | nil => rfl
  | cons b rest ih =>
    have hb := b.toNat_lt
    have hdiv : (b.toNat + 256 * littleEndian rest) / 256 = littleEndian rest := by omega
    simp only [List.length_cons, littleBytes, littleEndian, hdiv, ih, List.cons.injEq, and_true]
    apply UInt8.toNat_inj.1
    simp only [UInt8.toNat_ofNat']
    omega

namespace ByteOrder

/-- Turns bytes of this order into little-endian order, and back. -/
def arrange (order : ByteOrder) (bs : List UInt8) : List UInt8 :=
  match order with
  | little => bs
  | big => bs.reverse

theorem length_arrange (order : ByteOrder) (bs : List UInt8) :
    (order.arrange bs).length = bs.length := by
  cases order <;> simp [arrange]

end ByteOrder

/-- The guest stores values least significant byte first. -/
abbrev guestOrder : ByteOrder := .little

namespace Value

/-- The value whose bytes in the given order are `bs`. -/
def ofBytes (order : ByteOrder) (w : Width) (bs : List UInt8) : Value w :=
  BitVec.ofNat w.bits (littleEndian (order.arrange bs))

/-- The bytes of a value in the given order. -/
def toBytes {w : Width} (order : ByteOrder) (v : Value w) : List UInt8 :=
  order.arrange (littleBytes w.bytes v.toNat)

/-- A value as a 32-bit word, zeros above. -/
def toWord {w : Width} (v : Value w) : BitVec 32 := v.setWidth 32

/-- The low bits of a 32-bit word. -/
def ofWord (w : Width) (v : BitVec 32) : Value w := v.setWidth w.bits

theorem length_toBytes {w : Width} (order : ByteOrder) (v : Value w) :
    (v.toBytes order).length = w.bytes := by
  simp [toBytes, ByteOrder.length_arrange, length_littleBytes]

theorem toWord_toNat {w : Width} (v : Value w) : v.toWord.toNat = v.toNat := by
  have h := v.isLt
  have hw : w.bits ≤ 32 := by cases w <;> decide
  simp only [toWord, BitVec.toNat_setWidth]
  exact Nat.mod_eq_of_lt (Nat.lt_of_lt_of_le h (Nat.pow_le_pow_right (by decide) hw))

theorem toWord_eq {w : Width} (v : Value w) : v.toWord = BitVec.ofNat 32 v.toNat :=
  (BitVec.ofNat_toNat 32 v).symm

end Value

end ConsoleMemory
