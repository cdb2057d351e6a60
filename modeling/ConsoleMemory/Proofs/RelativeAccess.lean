import ConsoleMemory.Proofs.Coherence

/-!
# Displaced accesses and guest accesses

A displaced access names its word in three ways: by the offset from the start of RAM as an integer,
by the address in the segment of the base that this offset stands for, and by the sum of base and
displacement modulo 2 to the 32. Inside the guards the access is a guest access at the second of
them, and elsewhere one at the third.
-/

namespace ConsoleMemory.Memory

lemma displaced_eq_ofInt (base : Address) (disp : Int32) :
    displaced base disp = BitVec.ofInt 32 (base.toNat + disp.toInt) := by
  have haddr := toNat_displaced base disp
  apply BitVec.eq_of_toNat_eq
  rw [BitVec.toNat_ofInt]
  omega

lemma ramAddress_ramOffset (base : Address) (disp : Int32) :
    ramAddress base (ramOffset base disp) =
      (Segment.ofAddress base).base |||
        BitVec.ofNat 32 (((base.toNat % ramSize : Nat) + disp.toInt) % ramSize).toNat := by
  rw [ramAddress, Ram.wrapOffset, toInt_ramOffset]

variable {ρ : Type} [RegisterBank ρ] {m : Memory ρ}

/-- Where the displaced address is RAM, it is the RAM word of the offset. -/
lemma Coherent.read_displaced (h : m.Coherent) {base : Address} {disp : Int32}
    (hram : Region.ofAddress (displaced base disp) = .ram) :
    m.read .word (ramAddress base (ramOffset base disp)) = m.read .word (displaced base disp) := by
  have hpage := (Region.ofAddress_eq_ram_iff _).1 hram
  rw [h.read_ram _ (isRamPage_ramAddress base _), h.read_ram _ hpage, ramAddress_mod,
    displaced_mod, m.ram.view_congr (Segment.ofAddress (displaced base disp))]

lemma Coherent.clears_write_ramAddress (h : m.Coherent) (base : Address) (offset : Int64)
    (v : Value .word) (hcache : m.cache = .writeEnabled) :
    (m.write (ramAddress base offset) v).trace.clears =
      if m.listening then [⟨ramAddress base offset, 1⟩] else [] := by
  rw [h.write_ram v (isRamPage_ramAddress base offset) hcache]
  unfold report
  split <;> rfl

/-- A displaced access from a base in a RAM window, inside the guards, is a guest access to the RAM
word of its offset, a store while stores to RAM are enabled. Its address modulo 2 to the 32 is RAM,
and then the same word, or unmapped. Every other displaced access is a guest access at that
address. -/
theorem relative_eq_guest (hm : m.Reachable) (base : Address) (disp : Int32) (v : Value .word) :
    let offset : Int := (base.toNat % ramSize : Nat) + disp.toInt
    let word : Address :=
      (Segment.ofAddress base).base ||| BitVec.ofNat 32 (offset % ramSize).toNat
    let address : Address := BitVec.ofInt 32 (base.toNat + disp.toInt)
    let direct : Prop :=
      Region.ofAddress base = .ram ∧ -65536 ≤ offset ∧ offset + 4 ≤ 2 ^ 21 + 65536
    (direct →
      m.readRelative base disp = m.read .word word ∧
      (Region.ofAddress address = .ram ∨ Region.ofAddress address = .unmapped) ∧
      (Region.ofAddress address = .ram → m.readRelative base disp = m.read .word address) ∧
      (m.cache = .writeEnabled →
        m.writeRelative base disp v = m.write word v ∧
        (m.writeRelative base disp v).trace.clears = if m.listening then [⟨word, 1⟩] else []) ∧
      (m.cache = .writeDisabled → m.writeRelative base disp v = m.write address v)) ∧
    (¬direct →
      m.readRelative base disp = m.read .word address ∧
      m.writeRelative base disp v = m.write address v) := by
  intro offset word address direct
  have h : m.Coherent := hm.coherent
  have hword : word = ramAddress base (ramOffset base disp) := (ramAddress_ramOffset base disp).symm
  have haddress : address = displaced base disp := (displaced_eq_ofInt base disp).symm
  have hdirect : direct ↔ isRamPage base.page = true ∧ InGuards base disp :=
    and_congr_left' (Region.ofAddress_eq_ram_iff base)
  rw [hword, haddress, hdirect]
  constructor
  · rintro ⟨hbase, hin⟩
    have hread : m.readRelative base disp =
        m.read .word (ramAddress base (ramOffset base disp)) := by
      rw [h.readRelative_eq, if_pos ⟨hbase, hin⟩]
    refine ⟨hread, ofAddress_displaced hbase hin, ?_, ?_, ?_⟩
    · intro hram
      rw [hread, h.read_displaced hram]
    · intro hcache
      have hwrite : m.writeRelative base disp v =
          m.write (ramAddress base (ramOffset base disp)) v := by
        rw [h.writeRelative_eq, if_pos ⟨⟨hbase, hin⟩, hcache⟩]
      exact ⟨hwrite, by rw [hwrite, h.clears_write_ramAddress base _ v hcache]⟩
    · intro hcache
      have hshut : ¬m.cache = .writeEnabled := by
        rw [hcache]
        decide
      rw [h.writeRelative_eq, if_neg (fun hall => hshut hall.2)]
  · intro hout
    rw [h.readRelative_eq, h.writeRelative_eq, if_neg hout, if_neg (fun hall => hout hall.1)]
    exact ⟨rfl, rfl⟩

/-- Two bytes below the kernel view of RAM nothing is mapped, and the guard shows the last two bytes
and the first two. -/
theorem relative_eq_guest_below_kseg0 :
    let m := (Session.start Empty { mirroring := .aliased } {} true).1.memory
    m.Reachable ∧
      m.readRelative 0x80000000#32 (-2) = m.read .word 0x801FFFFE#32 ∧
      m.writeRelative 0x80000000#32 (-2) 7#32 = m.write (w := .word) 0x801FFFFE#32 7#32 := by
  intro m
  have hm : m.Reachable := ⟨{ mirroring := .aliased }, {}, true, [], rfl⟩
  have h := (relative_eq_guest hm 0x80000000#32 (-2) 7#32).1 (by decide)
  have hword : (Segment.ofAddress 0x80000000#32).base |||
      BitVec.ofNat 32 ((((0x80000000#32 : Address).toNat % ramSize : Nat) +
        (-2 : Int32).toInt) % ramSize).toNat = 0x801FFFFE#32 := by decide
  obtain ⟨hread, -, -, hwrite, -⟩ := h
  rw [hword] at hread hwrite
  exact ⟨hm, hread, (hwrite rfl).1⟩

end ConsoleMemory.Memory
