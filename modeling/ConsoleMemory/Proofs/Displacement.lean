import ConsoleMemory.Memory.Relative
import ConsoleMemory.Proofs.Dispatch
import ConsoleMemory.Proofs.Guard

/-!
# Displacements

Where a displacement from a base in a RAM window leads: the offset as an integer, the address modulo
2 to the 32 and the RAM word in the segment of the base name the same place in RAM. The guards
shadow nothing, for the displaced address itself is RAM or unmapped.
-/

namespace ConsoleMemory

namespace Memory

lemma toInt_ramOffset (base : Address) (disp : Int32) :
    (ramOffset base disp).toInt = (base.toNat % ramSize : Nat) + disp.toInt := by
  have hlow := disp.le_toInt
  have hhigh := disp.toInt_lt
  have hpos : base.toNat % ramSize < ramSize := Nat.mod_lt _ (by decide)
  have hbase : (Int64.ofNat (base.toNat % ramSize)).toInt = (base.toNat % ramSize : Nat) :=
    Int64.toInt_ofNat_of_lt (by simp only [ramSize] at hpos ⊢; omega)
  rw [ramOffset, Int64.toInt_add, hbase, Int32.toInt_toInt64]
  apply Int.bmod_eq_of_le <;> simp only [ramSize] at hpos ⊢ <;> omega

lemma toInt_ramOffset_add_lt (base : Address) (disp : Int32) :
    (ramOffset base disp).toInt + Width.word.bytes < 2 ^ 63 := by
  have hoffset := toInt_ramOffset base disp
  have hhigh := disp.toInt_lt
  have hpos : base.toNat % ramSize < ramSize := Nat.mod_lt _ (by decide)
  simp only [Width.bytes, ramSize] at hpos hoffset ⊢
  omega

lemma toNat_displaced (base : Address) (disp : Int32) :
    ((displaced base disp).toNat : Int) = (base.toNat + disp.toInt) % 2 ^ 32 := by
  have hdisp : disp.toInt = disp.toBitVec.toInt := rfl
  rw [hdisp, BitVec.toInt_eq_toNat_cond, displaced, BitVec.toNat_add]
  split <;> omega

/-- The word at a displacement from a base lies in RAM and its guards. -/
def InGuards (base : Address) (disp : Int32) : Prop :=
  -(guardSize : Int) ≤ (base.toNat % ramSize : Nat) + disp.toInt ∧
    (base.toNat % ramSize : Nat) + disp.toInt + 4 ≤ ramSize + guardSize

instance (base : Address) (disp : Int32) : Decidable (InGuards base disp) :=
  inferInstanceAs (Decidable (_ ∧ _))

/-- A guard shows RAM beyond the end of a 2 MB image, where the next image starts or nothing is
mapped. -/
lemma ofAddress_displaced {base : Address} {disp : Int32} (hbase : isRamPage base.page = true)
    (h : InGuards base disp) :
    Region.ofAddress (displaced base disp) = .ram ∨
      Region.ofAddress (displaced base disp) = .unmapped := by
  obtain ⟨hlow, hhigh⟩ := h
  have hpage := (isRamPage_iff _).1 hbase
  have haddr := toNat_displaced base disp
  have hspec := Region.ofAddress_spec (displaced base disp)
  simp only [Address.page, pageSize, ramSize, guardSize] at hpage hlow hhigh
  -- the guards end 64 KB past an 8 MB window of RAM, and no other region is as near to one
  cases hregion : Region.ofAddress (displaced base disp) <;> rw [hregion] at hspec <;>
    simp only at hspec
  case ram => exact .inl rfl
  case unmapped => exact .inr rfl
  case scratchpad =>
    have h := (isHardwarePage_iff _).1 hspec.1
    simp only [Address.page, pageSize] at h
    omega
  case io =>
    have h := (isHardwarePage_iff _).1 hspec.1
    simp only [Address.page, pageSize] at h
    omega
  case parallel =>
    have h := hspec.2
    simp only [Address.page, pageSize, parallelPage] at h
    omega
  case bios =>
    have h := (isBiosPage_iff _).1 hspec.2
    simp only [Address.page, pageSize] at h
    omega
  case cacheControl =>
    have h : (displaced base disp).toNat = 0xFFFE0130 := congrArg BitVec.toNat hspec.2
    omega

lemma toNat_base (s : Segment) : s.base.toNat = s.ramPage * pageSize := by cases s <;> rfl

/-- The segments start at multiples of 2 MB, so the bits of the two parts do not meet. -/
lemma toNat_ramAddress (base : Address) (offset : Int64) :
    (ramAddress base offset).toNat =
      (Segment.ofAddress base).ramPage * pageSize + Ram.wrapOffset offset := by
  have hlt : Ram.wrapOffset offset < 2 ^ 21 := Ram.wrapOffset_lt offset
  have hwrap : (BitVec.ofNat 32 (Ram.wrapOffset offset)).toNat = Ram.wrapOffset offset := by
    rw [BitVec.toNat_ofNat]
    exact Nat.mod_eq_of_lt (by omega)
  have halign : (Segment.ofAddress base).ramPage * pageSize =
      2 ^ 21 * ((Segment.ofAddress base).ramPage / 0x20) := by
    cases Segment.ofAddress base <;> rfl
  rw [ramAddress, BitVec.toNat_or, hwrap, toNat_base, halign]
  exact (Nat.two_pow_add_eq_or_of_lt hlt _).symm

lemma isRamPage_ramAddress (base : Address) (offset : Int64) :
    isRamPage (ramAddress base offset).page = true := by
  have hlt := Ram.wrapOffset_lt offset
  rw [isRamPage_iff, Address.page, toNat_ramAddress]
  simp only [ramSize, pageSize] at hlt ⊢
  cases Segment.ofAddress base <;> simp only [Segment.ramPage] <;> omega

lemma ramAddress_mod (base : Address) (offset : Int64) :
    (ramAddress base offset).toNat % ramSize = Ram.wrapOffset offset := by
  have hlt := Ram.wrapOffset_lt offset
  rw [toNat_ramAddress]
  simp only [ramSize, pageSize] at hlt ⊢
  cases Segment.ofAddress base <;> simp only [Segment.ramPage] <;> omega

/-- The displaced address and the RAM word it stands for are the same place in RAM. -/
lemma displaced_mod (base : Address) (disp : Int32) :
    (displaced base disp).toNat % ramSize = Ram.wrapOffset (ramOffset base disp) := by
  have haddr := toNat_displaced base disp
  rw [Ram.wrapOffset, toInt_ramOffset]
  simp only [ramSize]
  omega

variable {ρ : Type} {m : Memory ρ}

lemma Coherent.readsRam_eq (h : m.Coherent) (a : Address) : m.readsRam a = isRamPage a.page := by
  rw [readsRam, h.tables, PageTables.readEntry_ofCache]
  cases hram : isRamPage a.page with
  | true =>
    rw [PageEntry.ofPage_of_isRamPage hram]
    rfl
  | false =>
    unfold PageEntry.ofPage
    rw [hram]
    split
    · rfl
    · split
      · rfl
      · split <;> rfl

lemma Coherent.writesRam_eq (h : m.Coherent) (a : Address) :
    m.writesRam a = (isRamPage a.page && m.isWriteEnabled) := by
  rw [writesRam, h.tables, PageTables.writeEntry_ofCache]
  cases hram : isRamPage a.page with
  | true =>
    rw [PageTables.writeEntryOf_of_isRamPage _ hram]
    cases hcache : m.cache <;> simp [isWriteEnabled, hcache, PageEntry.ram]
  | false =>
    unfold PageTables.writeEntryOf
    by_cases hparallel : a.page = parallelPage
    · rw [hparallel, if_pos (.inl rfl), PageEntry.ofPage_parallelPage]
      rfl
    · have hout : ¬(a.page = parallelPage ∨ isRamPage a.page = true ∧ m.cache = .writeEnabled) := by
        rw [hram]
        tauto
      rw [if_neg hout]
      rfl

/-- A word in the guards of a base that loads go to RAM from is a run of bytes of RAM. -/
lemma loadDisplaced?_eq (m : Memory ρ) (base : Address) (disp : Int32) :
    m.loadDisplaced? base disp =
      some (if m.readsRam base = true ∧ InGuards base disp then
        some ((m.ram.view (Segment.ofAddress base)).gather .wrap
          (Ram.wrapOffset (ramOffset base disp)) Width.word.bytes)
      else none) := by
  unfold loadDisplaced?
  by_cases hreads : m.readsRam base = true
  · rw [if_pos hreads, Ram.readGuarded?_eq _ _ _ _ (toInt_ramOffset_add_lt base disp),
      toInt_ramOffset]
    simp only [hreads, true_and]
    rfl
  · rw [if_neg hreads, if_neg (fun hboth => hreads hboth.1)]

/-- A word in the guards of a base that stores go to RAM from is put over a run of bytes of RAM. -/
lemma storeDisplaced?_eq (m : Memory ρ) (base : Address) (disp : Int32) {data : List UInt8}
    (hdata : data.length = Width.word.bytes) :
    m.storeDisplaced? base disp data =
      some (if m.writesRam base = true ∧ InGuards base disp then
        some (m.ram.modify (Segment.ofAddress base) fun image =>
          image.scatter .wrap (Ram.wrapOffset (ramOffset base disp)) data)
      else none) := by
  have hfit : (ramOffset base disp).toInt + data.length < 2 ^ 63 := by
    rw [hdata]
    exact toInt_ramOffset_add_lt base disp
  unfold storeDisplaced?
  by_cases hwrites : m.writesRam base = true
  · rw [if_pos hwrites, Ram.writeGuarded?_eq _ _ _ _ hfit, toInt_ramOffset, hdata]
    simp only [hwrites, true_and]
    rfl
  · rw [if_neg hwrites, if_neg (fun hboth => hwrites hboth.1)]

variable [RegisterBank ρ]

/-- A displaced load is a load of the RAM word inside the guards and of the displaced address
elsewhere. -/
theorem Coherent.readRelative?_eq (h : m.Coherent) (base : Address) (disp : Int32) :
    m.readRelative? base disp =
      some (if isRamPage base.page = true ∧ InGuards base disp then
        m.read .word (ramAddress base (ramOffset base disp))
      else m.read .word (displaced base disp)) := by
  have hram := isRamPage_ramAddress base (ramOffset base disp)
  have hend := (ramAddress base (ramOffset base disp)).mod_add_bytes_lt ramSize .word
  rw [readRelative?, loadDisplaced?_eq, h.readsRam_eq, h.read?_eq, ← h.read_eq]
  by_cases hin : isRamPage base.page = true ∧ InGuards base disp
  · rw [if_pos hin, if_pos hin, h.read_ram _ hram, Image.load_eq hend, ramAddress_mod,
      m.ram.view_congr (Segment.ofAddress base)
        (Segment.ofAddress (ramAddress base (ramOffset base disp)))]
    rfl
  · rw [if_neg hin, if_neg hin]
    rfl

/-- A displaced store is a store to the RAM word inside the guards, while such stores are enabled,
and to the displaced address otherwise. -/
theorem Coherent.writeRelative?_eq (h : m.Coherent) (base : Address) (disp : Int32)
    (v : Value .word) :
    m.writeRelative? base disp v =
      some (if (isRamPage base.page = true ∧ InGuards base disp) ∧ m.cache = .writeEnabled then
        m.write (ramAddress base (ramOffset base disp)) v
      else m.write (displaced base disp) v) := by
  have hram := isRamPage_ramAddress base (ramOffset base disp)
  have hend := (ramAddress base (ramOffset base disp)).mod_add_bytes_lt ramSize .word
  have hdirect : m.writesRam base = true ∧ InGuards base disp ↔
      (isRamPage base.page = true ∧ InGuards base disp) ∧ m.cache = .writeEnabled := by
    rw [h.writesRam_eq, isWriteEnabled, Bool.and_eq_true, decide_eq_true_iff]
    tauto
  rw [writeRelative?, m.storeDisplaced?_eq base disp (Value.length_toBytes guestOrder v),
    h.write?_eq, ← h.write_eq]
  by_cases hin : m.writesRam base = true ∧ InGuards base disp
  · rw [ramAddress_mod] at hend
    rw [if_pos hin, if_pos (hdirect.1 hin), h.write_ram v hram (hdirect.1 hin).2,
      ramAddress_mod, m.ram.modify_congr (Segment.ofAddress base)
        (Segment.ofAddress (ramAddress base (ramOffset base disp)))]
    simp only [Image.store_eq hend]
    rfl
  · rw [if_neg hin, if_neg (fun hall => hin (hdirect.2 hall))]
    rfl

lemma Coherent.readRelative_eq (h : m.Coherent) (base : Address) (disp : Int32) :
    m.readRelative base disp =
      if isRamPage base.page = true ∧ InGuards base disp then
        m.read .word (ramAddress base (ramOffset base disp))
      else m.read .word (displaced base disp) := by
  rw [readRelative, h.readRelative?_eq, Option.getD_some]

lemma Coherent.writeRelative_eq (h : m.Coherent) (base : Address) (disp : Int32)
    (v : Value .word) :
    m.writeRelative base disp v =
      if (isRamPage base.page = true ∧ InGuards base disp) ∧ m.cache = .writeEnabled then
        m.write (ramAddress base (ramOffset base disp)) v
      else m.write (displaced base disp) v := by
  rw [writeRelative, h.writeRelative?_eq, Option.getD_some]

end Memory

end ConsoleMemory
