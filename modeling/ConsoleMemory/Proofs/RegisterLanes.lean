import ConsoleMemory.Session
import ConsoleMemory.Proofs.ByteAccess
import Mathlib.Logic.Function.Basic

/-!
# Registers of words as bytes

A device that knows whole words only is an array of bytes for accesses of every width, once its
words are memory. A narrow read takes its lane out of the aligned word, and a narrow write puts its
lane into it and writes the word back, so the bytes beside the lane come back as they were.
-/

namespace ConsoleMemory

open WordBank

/-! ### Calls and what they return -/

/-- One call of a bank: what it returns, and the bank after it. -/
def RegisterCall.perform {ρ : Type} [RegisterBank ρ] : RegisterCall → ρ → Answer × ρ
  | .read w a, bank => Prod.map (.value w) id (RegisterBank.read w a bank)
  | .write _ a v, bank => (.nothing, RegisterBank.write a v bank)

/-- Calls in order: what each returns, and what they leave. -/
def performAll {σ : Type} (perform : RegisterCall → σ → Answer × σ) :
    List RegisterCall → σ → List Answer × σ
  | [], state => ([], state)
  | call :: rest, state =>
    let first := perform call state
    let later := performAll perform rest first.2
    (first.1 :: later.1, later.2)

/-- By induction on the calls: states that stay related through each call return the same. -/
lemma performAll_related {σ τ : Type} {perform : RegisterCall → σ → Answer × σ}
    {perform' : RegisterCall → τ → Answer × τ} {Related : σ → τ → Prop} (calls : List RegisterCall)
    (h : ∀ call ∈ calls, ∀ s t, Related s t →
      (perform call s).1 = (perform' call t).1 ∧ Related (perform call s).2 (perform' call t).2) :
    ∀ {s t}, Related s t →
      (performAll perform calls s).1 = (performAll perform' calls t).1 ∧
        Related (performAll perform calls s).2 (performAll perform' calls t).2 := by
  induction calls with
  | nil =>
    intro s t hst
    exact ⟨rfl, hst⟩
  | cons call rest ih =>
    intro s t hst
    obtain ⟨hanswer, hnext⟩ := h call List.mem_cons_self s t hst
    obtain ⟨hanswers, hafter⟩ :=
      ih (fun later hlater => h later (List.mem_cons_of_mem call hlater)) hnext
    exact ⟨congrArg₂ List.cons hanswer hanswers, hafter⟩

/-- Whole words are accessed at their first byte. -/
def RegisterCall.Aligned : RegisterCall → Prop
  | .read w a | .write w a _ => w = .word → a.toNat % 4 = 0

instance : (call : RegisterCall) → Decidable call.Aligned
  | .read _ _ | .write _ _ _ => inferInstanceAs (Decidable (_ → _))

/-- An access of a whole aligned word. -/
def RegisterCall.IsWord : RegisterCall → Prop
  | .read w a | .write w a _ => w = .word ∧ a.toNat % 4 = 0

/-- A device of words that are nothing but memory. -/
structure WordMemory where
  words : Address → BitVec 32

instance : WordBank WordMemory where
  readWord a memory := (memory.words a, memory)
  writeWord a v memory := ⟨Function.update memory.words a v⟩

/-- The aligned words of a device behave as memory with the given contents: a read returns what was
last written to its word, or else what the word held at first. -/
def ActsAsMemory {ρ : Type} [WordBank ρ] (bank : ρ) (words : Address → BitVec 32) : Prop :=
  ∀ calls : List RegisterCall, (∀ call ∈ calls, call.IsWord) →
    (performAll RegisterCall.perform calls bank).1 =
      (performAll RegisterCall.perform calls (WordMemory.mk words)).1

/-! ### Bytes -/

/-- The bytes of words in memory, least significant first. -/
def bytesOf (words : Address → BitVec 32) (p : Address) : UInt8 :=
  Value.byte (w := .word) (words (p &&& ~~~3#32)) (p.toNat % 4)

/-- The first byte an access acts on. A half lies at an even address. -/
def firstByte (w : Width) (a : Address) : Address :=
  match w with
  | .half => a &&& ~~~1#32
  | .byte | .word => a

/-- A call of an array of bytes. -/
def performOnBytes : RegisterCall → (Address → UInt8) → Answer × (Address → UInt8)
  | .read w a, cells =>
    (.value w (.ofBytes .little w
      ((List.range w.bytes).map fun i => cells (firstByte w a + BitVec.ofNat 32 i))), cells)
  | .write w a v, cells =>
    (.nothing, fun p =>
      let i := (p - firstByte w a).toNat
      if i < w.bytes then v.byte i else cells p)

/-! ### Lanes of a word -/

variable {w : Width} {a : Address}

lemma Value.ofWord_toWord (v : Value w) : ofWord w v.toWord = v := by
  apply BitVec.eq_of_toNat_eq
  rw [ofWord, BitVec.toNat_setWidth, toWord_toNat]
  exact Nat.mod_eq_of_lt v.isLt

lemma uint8_ext {b c : UInt8} (h : ∀ t < 8, b.toBitVec.getLsbD t = c.toBitVec.getLsbD t) :
    b = c := by
  apply UInt8.toBitVec_inj.1
  apply BitVec.eq_of_getLsbD_eq
  exact h

lemma Value.getLsbD_byte (v : Value w) (i : Nat) {t : Nat} (ht : t < 8) :
    (v.byte i).toBitVec.getLsbD t = v.getLsbD (8 * i + t) := by
  simp [byte, ht]

lemma getLsbD_byte_word (word : BitVec 32) (i : Nat) {t : Nat} (ht : t < 8) :
    (Value.byte (w := .word) word i).toBitVec.getLsbD t = word.getLsbD (8 * i + t) :=
  Value.getLsbD_byte (w := .word) word i ht

lemma getLsbD_replaceLane (shift : Nat) (word : BitVec 32) (v : Value w) {b : Nat} (hb : b < 32) :
    (replaceLane shift word v).getLsbD b =
      if shift ≤ b ∧ b < shift + w.bits then v.getLsbD (b - shift) else word.getLsbD b := by
  have hw : w.bits ≤ 32 := by cases w <;> decide
  simp only [replaceLane, Value.toWord, BitVec.getLsbD_or, BitVec.getLsbD_and, BitVec.getLsbD_not,
    BitVec.getLsbD_shiftLeft, BitVec.getLsbD_setWidth, BitVec.getLsbD_allOnes, hb, decide_true,
    Bool.true_and]
  by_cases hlow : b < shift
  · have hout : ¬(shift ≤ b ∧ b < shift + w.bits) := by omega
    simp [hlow, hout]
  · by_cases hhigh : b < shift + w.bits
    · have hin : shift ≤ b ∧ b < shift + w.bits := by omega
      have hsub : b - shift < 32 ∧ b - shift < w.bits := by omega
      simp [hlow, hin, hsub]
    · have hout : ¬(shift ≤ b ∧ b < shift + w.bits) := by omega
      have hsub : ¬b - shift < w.bits := by omega
      simp [hlow, hout, hsub, BitVec.getLsbD_of_ge v (b - shift) (by omega)]

lemma lane_word (word : BitVec 32) : lane .word 0 word = word :=
  (congrArg (BitVec.setWidth 32) word.ushiftRight_zero).trans word.setWidth_eq

lemma replaceLane_word (word : BitVec 32) (v : Value .word) : replaceLane 0 word v = v := by
  apply BitVec.eq_of_getLsbD_eq
  intro b hb
  rw [getLsbD_replaceLane 0 word v hb]
  exact if_pos ⟨Nat.zero_le b, by rwa [Nat.zero_add]⟩

lemma byte_lane (k : Nat) (word : BitVec 32) {i : Nat} (hi : i < w.bytes) :
    (lane w (8 * k) word).byte i = Value.byte (w := .word) word (k + i) := by
  have hbits : w.bits = 8 * w.bytes := rfl
  apply uint8_ext
  intro t ht
  have hin : 8 * i + t < w.bits := by omega
  rw [Value.getLsbD_byte _ _ ht, getLsbD_byte_word _ _ ht]
  simp only [lane, Value.ofWord, BitVec.getLsbD_setWidth, hin, decide_true, Bool.true_and,
    BitVec.getLsbD_ushiftRight]
  congr 1
  omega

lemma byte_replaceLane (k : Nat) (word : BitVec 32) (v : Value w) {j : Nat} (hj : j < 4) :
    Value.byte (w := .word) (replaceLane (8 * k) word v) j =
      if k ≤ j ∧ j < k + w.bytes then v.byte (j - k) else Value.byte (w := .word) word j := by
  have hbits : w.bits = 8 * w.bytes := rfl
  apply uint8_ext
  intro t ht
  rw [getLsbD_byte_word _ _ ht, getLsbD_replaceLane _ _ _ (by omega)]
  by_cases hin : k ≤ j ∧ j < k + w.bytes
  · have hplace : 8 * j + t - 8 * k = 8 * (j - k) + t := by omega
    rw [if_pos hin, if_pos (by omega), Value.getLsbD_byte _ _ ht, hplace]
  · rw [if_neg hin, if_neg (by omega), getLsbD_byte_word _ _ ht]

/-! ### The aligned word of an address -/

lemma and_not_mask_eq (a : Address) (k : Nat) :
    a &&& ~~~(BitVec.ofNat 32 (2 ^ k - 1)) = (a >>> k) <<< k := by
  apply BitVec.eq_of_getLsbD_eq
  intro i hi
  simp only [BitVec.getLsbD_and, BitVec.getLsbD_not, BitVec.getLsbD_ofNat, hi, decide_true,
    Bool.true_and, Nat.testBit_two_pow_sub_one, BitVec.getLsbD_shiftLeft,
    BitVec.getLsbD_ushiftRight]
  by_cases hk : i < k
  · simp [hk]
  · simp [hk, Nat.add_sub_cancel' (Nat.not_lt.1 hk)]

lemma toNat_and_not_mask (a : Address) (k : Nat) :
    (a &&& ~~~(BitVec.ofNat 32 (2 ^ k - 1))).toNat = a.toNat / 2 ^ k * 2 ^ k := by
  have hle := Nat.div_mul_le_self a.toNat (2 ^ k)
  have hlt := a.isLt
  rw [and_not_mask_eq, BitVec.toNat_shiftLeft, BitVec.toNat_ushiftRight, Nat.shiftLeft_eq,
    Nat.shiftRight_eq_div_pow]
  exact Nat.mod_eq_of_lt (by omega)

lemma toNat_and_not_three (a : Address) : (a &&& ~~~3#32).toNat = a.toNat / 4 * 4 :=
  toNat_and_not_mask a 2

lemma wordStart_eq (a : Address) : a.wordStart = a &&& ~~~3#32 := by
  apply BitVec.eq_of_toNat_eq
  rw [Address.toNat_wordStart, toNat_and_not_three]

lemma toNat_and_not_three_mod (a : Address) : (a &&& ~~~3#32).toNat % 4 = 0 := by
  rw [toNat_and_not_three]
  omega

lemma and_not_three_eq_self (ha : a.toNat % 4 = 0) : a &&& ~~~3#32 = a := by
  apply BitVec.eq_of_toNat_eq
  rw [toNat_and_not_three]
  omega

lemma and_not_three_of_div_eq {p : Address} (h : p.toNat / 4 = a.toNat / 4) :
    p &&& ~~~3#32 = a &&& ~~~3#32 := by
  apply BitVec.eq_of_toNat_eq
  rw [toNat_and_not_three, toNat_and_not_three, h]

/-- An access stays inside one aligned word. -/
lemma firstByte_spec (h : w = .word → a.toNat % 4 = 0) :
    (firstByte w a).toNat / 4 = a.toNat / 4 ∧ (firstByte w a).toNat % 4 + w.bytes ≤ 4 ∧
      laneShift w a = 8 * ((firstByte w a).toNat % 4) := by
  cases w with
  | byte =>
    have hlt : a.toNat % 4 < 4 := Nat.mod_lt _ (by decide)
    exact ⟨rfl, hlt, rfl⟩
  | half =>
    have hhalf : (a &&& ~~~1#32).toNat = a.toNat / 2 * 2 := toNat_and_not_mask a 1
    simp only [firstByte, laneShift, Width.bytes, hhalf]
    omega
  | word =>
    have halign : a.toNat % 4 = 0 := h rfl
    simp only [firstByte, laneShift, Width.bytes, halign]
    decide

/-! ### One access -/

section Contents

variable (words : Address → BitVec 32)

lemma bytesOf_firstByte_add (h : w = .word → a.toNat % 4 = 0) {i : Nat} (hi : i < w.bytes) :
    bytesOf words (firstByte w a + BitVec.ofNat 32 i) =
      Value.byte (w := .word) (words (a &&& ~~~3#32)) ((firstByte w a).toNat % 4 + i) := by
  obtain ⟨hdiv, hroom, -⟩ := firstByte_spec h
  have hlt := (firstByte w a).isLt
  have hsum : (firstByte w a + BitVec.ofNat 32 i).toNat = (firstByte w a).toNat + i := by
    rw [BitVec.toNat_add, BitVec.toNat_ofNat]
    omega
  rw [bytesOf, and_not_three_of_div_eq (a := a) (by omega), hsum]
  congr 1
  omega

lemma lane_eq_ofBytes (h : w = .word → a.toNat % 4 = 0) :
    lane w (laneShift w a) (words (a &&& ~~~3#32)) =
      .ofBytes .little w
        ((List.range w.bytes).map fun i => bytesOf words (firstByte w a + BitVec.ofNat 32 i)) := by
  obtain ⟨-, -, hshift⟩ := firstByte_spec h
  apply Value.ext_byte
  intro i hi
  rw [hshift, byte_lane _ _ hi, Value.byte_ofBytes (by simp) (by simpa using hi)]
  simp only [List.getElem_map, List.getElem_range]
  exact (bytesOf_firstByte_add words h hi).symm

lemma bytesOf_update (h : w = .word → a.toNat % 4 = 0) (v : Value w) :
    bytesOf (Function.update words (a &&& ~~~3#32)
        (replaceLane (laneShift w a) (words (a &&& ~~~3#32)) v)) =
      (performOnBytes (.write w a v) (bytesOf words)).2 := by
  obtain ⟨hdiv, hroom, hshift⟩ := firstByte_spec h
  funext p
  have hdistance : (p - firstByte w a).toNat =
      (2 ^ 32 - (firstByte w a).toNat + p.toNat) % 2 ^ 32 := BitVec.toNat_sub _ _
  have hfirst := (firstByte w a).isLt
  have hp := p.isLt
  simp only [bytesOf, performOnBytes, hdistance]
  -- the lane lies inside its word, so the distance is modulo 2 to the 32 only for bytes before it
  by_cases hword : p.toNat / 4 = a.toNat / 4
  · rw [and_not_three_of_div_eq hword, Function.update_self, hshift,
      byte_replaceLane _ _ _ (by omega)]
    by_cases hin : (firstByte w a).toNat ≤ p.toNat ∧ p.toNat < (firstByte w a).toNat + w.bytes
    · rw [if_pos (by omega), if_pos (by omega)]
      congr 1
      omega
    · rw [if_neg (by omega), if_neg (by omega)]
  · have hne : p &&& ~~~3#32 ≠ a &&& ~~~3#32 := by
      intro heq
      have hnat := congrArg BitVec.toNat heq
      rw [toNat_and_not_three, toNat_and_not_three] at hnat
      omega
    rw [Function.update_of_ne hne, if_neg (by omega)]

end Contents

/-! ### Runs of accesses -/

section Bank

variable {ρ : Type} [WordBank ρ] {bank : ρ} {words : Address → BitVec 32}

/-- A narrow read is one read of the aligned word. -/
lemma read_narrow (hw : w ≠ .word) (a : Address) (bank : ρ) :
    RegisterBank.read w a bank =
      (lane w (laneShift w a) (readWord (a &&& ~~~3#32) bank).1,
        (readWord (a &&& ~~~3#32) bank).2) := by
  rw [← wordStart_eq]
  cases w with
  | byte => rfl
  | half => rfl
  | word => exact absurd rfl hw

/-- A narrow write is one read of the aligned word and one write of it. -/
lemma write_narrow (hw : w ≠ .word) (a : Address) (v : Value w) (bank : ρ) :
    RegisterBank.write a v bank =
      writeWord (a &&& ~~~3#32)
        (replaceLane (laneShift w a) (readWord (a &&& ~~~3#32) bank).1 v)
        (readWord (a &&& ~~~3#32) bank).2 := by
  rw [← wordStart_eq]
  cases w with
  | byte => rfl
  | half => rfl
  | word => exact absurd rfl hw

/-- What acts as memory still does after an access of a word. -/
lemma ActsAsMemory.perform (h : ActsAsMemory bank words) (call : RegisterCall)
    (hcall : call.IsWord) :
    (call.perform bank).1 = (call.perform (WordMemory.mk words)).1 ∧
      ActsAsMemory (call.perform bank).2 (call.perform (WordMemory.mk words)).2.words := by
  constructor
  · have hone := h [call] (by simpa using hcall)
    exact (List.cons.inj hone).1
  · intro calls hcalls
    have hall := h (call :: calls) (List.forall_mem_cons.2 ⟨hcall, hcalls⟩)
    exact (List.cons.inj hall).2

lemma ActsAsMemory.readWord (h : ActsAsMemory bank words) (ha : a.toNat % 4 = 0) :
    (readWord a bank).1 = words a ∧ ActsAsMemory (readWord a bank).2 words := by
  obtain ⟨hanswer, hafter⟩ := h.perform (.read .word a) ⟨rfl, ha⟩
  exact ⟨eq_of_heq (Answer.value.inj hanswer).2, hafter⟩

lemma ActsAsMemory.writeWord (h : ActsAsMemory bank words) (ha : a.toNat % 4 = 0)
    (v : Value .word) : ActsAsMemory (writeWord a v bank) (Function.update words a v) :=
  (h.perform (.write .word a v) ⟨rfl, ha⟩).2

lemma ActsAsMemory.read (h : ActsAsMemory bank words) (ha : w = .word → a.toNat % 4 = 0) :
    (RegisterBank.read w a bank).1 = lane w (laneShift w a) (words (a &&& ~~~3#32)) ∧
      ActsAsMemory (RegisterBank.read w a bank).2 words := by
  by_cases hw : w = .word
  · subst hw
    obtain ⟨hvalue, hafter⟩ := h.readWord (ha rfl)
    refine ⟨?_, hafter⟩
    rw [and_not_three_eq_self (ha rfl)]
    exact hvalue.trans (lane_word (words a)).symm
  · obtain ⟨hvalue, hafter⟩ := h.readWord (toNat_and_not_three_mod a)
    rw [read_narrow hw, hvalue]
    exact ⟨rfl, hafter⟩

lemma ActsAsMemory.write (h : ActsAsMemory bank words) (ha : w = .word → a.toNat % 4 = 0)
    (v : Value w) :
    ActsAsMemory (RegisterBank.write a v bank)
      (Function.update words (a &&& ~~~3#32)
        (replaceLane (laneShift w a) (words (a &&& ~~~3#32)) v)) := by
  by_cases hw : w = .word
  · subst hw
    have hwhole : replaceLane (laneShift .word a) (words a) v = v := replaceLane_word (words a) v
    rw [and_not_three_eq_self (ha rfl), hwhole]
    exact h.writeWord (ha rfl) v
  · obtain ⟨hvalue, hafter⟩ := h.readWord (toNat_and_not_three_mod a)
    rw [write_narrow hw, hvalue]
    exact hafter.writeWord (toNat_and_not_three_mod a) _

/-- The aligned words of a device hold these bytes. -/
def HoldsBytes (bank : ρ) (cells : Address → UInt8) : Prop :=
  ∃ words, ActsAsMemory bank words ∧ bytesOf words = cells

/-- One call, of any width, is one on the bytes. -/
lemma HoldsBytes.perform {cells : Address → UInt8} (h : HoldsBytes bank cells)
    {call : RegisterCall} (hcall : call.Aligned) :
    (call.perform bank).1 = (performOnBytes call cells).1 ∧
      HoldsBytes (call.perform bank).2 (performOnBytes call cells).2 := by
  obtain ⟨words, hwords, rfl⟩ := h
  cases call with
  | read w a =>
    obtain ⟨hvalue, hafter⟩ := hwords.read hcall
    refine ⟨?_, words, hafter, rfl⟩
    exact congrArg (Answer.value w) (hvalue.trans (lane_eq_ofBytes words hcall))
  | write w a v => exact ⟨rfl, _, hwords.write hcall v, bytesOf_update words hcall v⟩

/-- Every run of calls on a device whose words act as memory is one on the bytes of the words. -/
theorem ActsAsMemory.performAll_eq (h : ActsAsMemory bank words) {calls : List RegisterCall}
    (hcalls : ∀ call ∈ calls, call.Aligned) :
    (performAll RegisterCall.perform calls bank).1 =
        (performAll performOnBytes calls (bytesOf words)).1 ∧
      HoldsBytes (performAll RegisterCall.perform calls bank).2
        (performAll performOnBytes calls (bytesOf words)).2 := by
  apply performAll_related calls
  · intro call hcall bank cells hholds
    exact hholds.perform (hcalls call hcall)
  · exact ⟨words, h, rfl⟩

/-- A write puts its bytes, and the bytes beside them stay. -/
lemma ActsAsMemory.bytes_write (h : ActsAsMemory bank words) (ha : w = .word → a.toNat % 4 = 0)
    (v : Value w) :
    ∃ after, ActsAsMemory (RegisterBank.write a v bank) after ∧
      (∀ i < w.bytes, bytesOf after (firstByte w a + BitVec.ofNat 32 i) = v.byte i) ∧
      ∀ p, (∀ i < w.bytes, firstByte w a + BitVec.ofNat 32 i ≠ p) →
        bytesOf after p = bytesOf words p := by
  refine ⟨_, h.write ha v, ?_, ?_⟩
  · intro i hi
    have hdistance : (firstByte w a + BitVec.ofNat 32 i - firstByte w a).toNat = i := by
      have hroom : w.bytes ≤ 4 := by cases w <;> decide
      rw [BitVec.add_comm, BitVec.add_sub_cancel, BitVec.toNat_ofNat]
      omega
    rw [bytesOf_update words ha v]
    simp only [performOnBytes, hdistance, if_pos hi]
  · intro p hp
    rw [bytesOf_update words ha v]
    apply if_neg
    intro hin
    apply hp _ hin
    rw [BitVec.ofNat_toNat, BitVec.setWidth_eq, BitVec.add_comm, BitVec.sub_add_cancel]

end Bank

/-! ### The accesses a device sees -/

/-- A device that keeps a record of the accesses it gets. -/
structure Recorded (ρ : Type) where
  bank : ρ
  calls : List RegisterCall

instance {ρ : Type} [WordBank ρ] : WordBank (Recorded ρ) where
  name r := name r.bank
  readWord a r := ((readWord a r.bank).1, ⟨(readWord a r.bank).2, r.calls ++ [.read .word a]⟩)
  writeWord a v r := ⟨writeWord a v r.bank, r.calls ++ [.write .word a v]⟩

/-- The accesses of a device that one call makes. -/
inductive RegisterCall.Makes : RegisterCall → List RegisterCall → Prop where
  | readWord (a : Address) : Makes (.read .word a) [.read .word a]
  | writeWord (a : Address) (v : Value .word) : Makes (.write .word a v) [.write .word a v]
  | read {w : Width} (hw : w ≠ .word) (a : Address) :
    Makes (.read w a) [.read .word (a &&& ~~~3#32)]
  | write {w : Width} (hw : w ≠ .word) (a : Address) (v : Value w) (word : Value .word) :
    Makes (.write w a v) [.read .word (a &&& ~~~3#32), .write .word (a &&& ~~~3#32) word]

namespace Recorded

variable {ρ : Type} [WordBank ρ]

lemma perform (call : RegisterCall) (r : Recorded ρ) :
    ∃ made, call.Makes made ∧
      call.perform r = ((call.perform r.bank).1, ⟨(call.perform r.bank).2, r.calls ++ made⟩) := by
  cases call with
  | read w a =>
    by_cases hw : w = .word
    · subst hw
      exact ⟨_, .readWord a, rfl⟩
    · refine ⟨_, .read hw a, ?_⟩
      simp only [RegisterCall.perform, read_narrow hw]
      rfl
  | write w a v =>
    by_cases hw : w = .word
    · subst hw
      exact ⟨_, .writeWord a v, rfl⟩
    · refine ⟨_, .write hw a v (replaceLane (laneShift w a) (readWord (a &&& ~~~3#32) r.bank).1 v),
        ?_⟩
      simp only [RegisterCall.perform, write_narrow hw]
      exact congrArg (fun calls => (Answer.nothing, mk _ calls)) (List.append_assoc _ _ _)

/-- By induction on the calls. -/
theorem performAll_eq (calls : List RegisterCall) : ∀ r : Recorded ρ,
    ∃ made, List.Forall₂ RegisterCall.Makes calls made ∧
      performAll RegisterCall.perform calls r =
        ((performAll RegisterCall.perform calls r.bank).1,
          ⟨(performAll RegisterCall.perform calls r.bank).2, r.calls ++ made.flatten⟩) := by
  induction calls with
  | nil =>
    intro r
    exact ⟨[], .nil, by simp [performAll]⟩
  | cons call rest ih =>
    intro r
    obtain ⟨first, hfirst, hcall⟩ := perform call r
    obtain ⟨later, hlater, hrest⟩ := ih ⟨(call.perform r.bank).2, r.calls ++ first⟩
    refine ⟨first :: later, .cons hfirst hlater, ?_⟩
    simp only [performAll, hcall, hrest, List.flatten_cons, List.append_assoc]

end Recorded

end ConsoleMemory
