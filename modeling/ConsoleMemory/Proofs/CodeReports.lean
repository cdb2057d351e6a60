import ConsoleMemory.Proofs.Isolation

/-!
# Reports of changed code

Someone who keeps code translated from RAM is told the words that a store may have made stale. The
words that are named hold every byte a store changes, save one: a half that straddles two words is
reported by the first of them alone.
-/

namespace ConsoleMemory

/-- The RAM positions of the words that a report names. -/
def CodeClear.Covers (c : CodeClear) (p : Nat) : Prop :=
  ∃ k < 4 * c.words, p = (c.address.toNat + k) % ramSize

/-- A position is in some reported word. -/
def Trace.Covers (trace : Trace) (p : Nat) : Prop := ∃ c ∈ trace.clears, c.Covers p

/-- The RAM position that a store to an address reaches and does not report: the second byte of a
half that straddles two words. -/
def unreported? (w : Width) (a : Address) : Option Nat :=
  if w = .half ∧ a.toNat % 4 = 3 then some ((a.toNat + 1) % ramSize) else none

/-- The RAM position that a step reaches and does not report. -/
def Step.unreported? {ρ : Type} : Step ρ → Option Nat
  | .write w a _ => ConsoleMemory.unreported? w a
  | _ => none

/-- The steps that store to RAM and report it. -/
inductive Step.IsReported {ρ : Type} : Step ρ → Prop where
  | guest {store : Step ρ} (h : store.IsGuestStore) : IsReported store
  | writeSlice (a : Address) (data : ByteArray) : IsReported (.writeSlice a data)

lemma CodeClear.covers_iff (a : Address) (words p : Nat) :
    CodeClear.Covers ⟨a, words⟩ p ↔ ∃ k < 4 * words, p = (a.toNat + k) % ramSize := Iff.rfl

lemma toNat_reportedAddress (w : Width) (a : Address) :
    (Memory.reportedAddress w a).toNat = if w = .word then a.toNat else a.toNat / 4 * 4 := by
  cases w
  · exact a.toNat_wordStart
  · exact a.toNat_wordStart
  · rfl

/-- The word reported for a store holds each of its bytes but the unreported one. -/
lemma covers_reportedAddress_iff {w : Width} (a : Address) {i : Nat} (hi : i < w.bytes) :
    CodeClear.Covers ⟨Memory.reportedAddress w a, 1⟩ ((a.toNat + i) % ramSize) ↔
      unreported? w a ≠ some ((a.toNat + i) % ramSize) := by
  rw [CodeClear.covers_iff, toNat_reportedAddress, unreported?]
  simp only [ramSize]
  cases w with
  | byte =>
    rw [Width.bytes] at hi
    refine iff_of_true ⟨a.toNat % 4, by omega, ?_⟩ (by simp)
    rw [if_neg (by decide)]
    omega
  | half =>
    rw [Width.bytes] at hi
    rw [if_neg (by decide)]
    by_cases hgap : a.toNat % 4 = 3
    · rw [if_pos ⟨rfl, hgap⟩]
      constructor
      · rintro ⟨k, hk, heq⟩ hsome
        have hnext := Option.some.inj hsome
        omega
      · intro hne
        have hfirst : i = 0 := by
          by_contra hi0
          exact hne (by rw [show i = 1 by omega])
        exact ⟨3, by omega, by omega⟩
    · rw [if_neg (fun hboth => hgap hboth.2)]
      exact iff_of_true ⟨a.toNat % 4 + i, by omega, by omega⟩ (by simp)
  | word =>
    rw [Width.bytes] at hi
    refine iff_of_true ⟨i, by omega, ?_⟩ (by simp)
    rw [if_pos rfl]

/-! ### Which stores are reported -/

namespace Memory

variable {ρ : Type}

/-- A guest store lands in RAM, while stores to it are on, and in the parallel window. -/
def Lands (m : Memory ρ) (a : Address) : Prop :=
  Region.ofAddress a = .parallel ∨ (Region.ofAddress a = .ram ∧ m.cache = .writeEnabled)

/-- While stores to RAM are off, a word stored to a page without a write entry is dropped and
reported all the same. -/
def ReportsDropped (m : Memory ρ) (w : Width) (a : Address) : Prop :=
  m.cache = .writeDisabled ∧ w = .word ∧ isHardwarePage a.page = false ∧
    m.tables.writeEntry a = none ∧ a ≠ cacheControlAddress

/-- The steps that report something. -/
def Reports (m : Memory ρ) : Step ρ → Prop
  | .write w a _ => m.Lands a ∨ m.ReportsDropped w a
  | .writeRelative base disp _ =>
    (Region.ofAddress base = .ram ∧ InGuards base disp ∧ m.cache = .writeEnabled) ∨
      m.Lands (displaced base disp) ∨ m.ReportsDropped .word (displaced base disp)
  | .writeSlice a data => data.size ≠ 0 ∧ a.toNat % ramSize + data.size ≤ ramSize
  | _ => False

/-- A trace reports what changed from one memory to the next: every RAM byte that changed is covered
unless it is the gap, there is at most one report, and there is one just where one is due. -/
structure ReportedBy (m n : Memory ρ) (trace : Trace) (gap : Option Nat) (due : Prop) : Prop where
  covers : ∀ p < ramSize, n.ramImage.get p ≠ m.ramImage.get p → (trace.Covers p ↔ gap ≠ some p)
  length_le : trace.clears.length ≤ 1
  ne_nil_iff : trace.clears ≠ [] ↔ due

end Memory

/-! ### Guest stores -/

namespace Flat

variable {ρ : Type}

/-- A buffer changes at the places of the bytes put there. -/
lemma exists_of_put_ne {w : Width} {size : Nat} {cells : Nat → UInt8} {place : Nat → Nat}
    {v : Value w} {p : Nat} (h : put size cells place v p ≠ cells p) :
    ∃ i < w.bytes, p = place i := by
  unfold put at h
  cases hfind : (List.range w.bytes).find? fun i => place i == p with
  | none =>
    rw [hfind] at h
    exact absurd rfl h
  | some i =>
    have hplace : place i = p := by simpa using List.find?_some hfind
    exact ⟨i, List.mem_range.1 (List.mem_of_find?_eq_some hfind), hplace.symm⟩

lemma report_of_listening {f : Flat ρ} (h : f.listening = true) (a : Address) :
    f.report a = [⟨a, 1⟩] := if_pos h

lemma clears_drop {f : Flat ρ} (h : f.listening = true) (w : Width) (a : Address) :
    (f.drop w a).clears = if w = .word ∧ f.cache = .writeDisabled then [⟨a, 1⟩] else [] := by
  rw [drop, report_of_listening h]

variable [RegisterBank ρ] {f : Flat ρ}

/-- RAM changes where a store lands in it. -/
lemma exists_of_store_ram_ne {w : Width} {a : Address} {v : Value w} {p : Nat}
    (h : (f.store a v).machine.ram p ≠ f.ram p) :
    (Region.ofAddress a = .ram ∧ f.cache = .writeEnabled) ∧
      ∃ i < w.bytes, p = (a.toNat + i) % ramSize := by
  have hregisters : (f.writeRegister a v).machine.ram = f.ram := by
    unfold writeRegister
    split <;> rfl
  unfold store at h
  cases hregion : Region.ofAddress a <;> rw [hregion] at h <;> dsimp only at h
  case ram =>
    by_cases hcache : f.cache = .writeEnabled
    · rw [if_pos hcache] at h
      exact ⟨⟨rfl, hcache⟩, exists_of_put_ne h⟩
    · rw [if_neg hcache] at h
      exact absurd rfl h
  case io => exact absurd (congrFun hregisters p) h
  case cacheControl =>
    split at h <;> exact absurd rfl h
  case parallel => exact absurd rfl h
  case scratchpad => exact absurd rfl h
  case bios => exact absurd rfl h
  case unmapped => exact absurd rfl h

lemma clears_store_of_ram {w : Width} {a : Address} {v : Value w}
    (hregion : Region.ofAddress a = .ram) (hcache : f.cache = .writeEnabled) :
    (f.store a v).clears = f.report (changedWord w a) := by
  unfold store
  rw [hregion]
  dsimp only
  rw [if_pos hcache]

end Flat

namespace Memory

variable {ρ : Type} {m : Memory ρ}

/-- While stores to RAM are off the parallel window alone has a write entry. -/
lemma Coherent.writeEntry_eq_none_iff (h : m.Coherent) (hcache : m.cache = .writeDisabled)
    (a : Address) : m.tables.writeEntry a = none ↔ a.page ≠ parallelPage := by
  rw [h.tables, PageTables.writeEntry_ofCache, hcache, PageTables.writeEntryOf]
  simp

/-- A dropped word is reported where no buffer but RAM would have taken it. -/
lemma Coherent.reportsDropped_iff (h : m.Coherent) (w : Width) (a : Address) :
    m.ReportsDropped w a ↔ (w = .word ∧ m.cache = .writeDisabled) ∧
      (Region.ofAddress a = .ram ∨ Region.ofAddress a = .bios ∨ Region.ofAddress a = .unmapped) := by
  have hregion : (isHardwarePage a.page = false ∧ a.page ≠ parallelPage ∧ a ≠ cacheControlAddress) ↔
      (Region.ofAddress a = .ram ∨ Region.ofAddress a = .bios ∨
        Region.ofAddress a = .unmapped) := by
    unfold Region.ofAddress
    split_ifs <;> simp_all
  unfold ReportsDropped
  rw [← hregion]
  constructor
  · rintro ⟨hcache, hword, hhardware, hentry, hcontrol⟩
    exact ⟨⟨hword, hcache⟩, hhardware, (h.writeEntry_eq_none_iff hcache a).1 hentry, hcontrol⟩
  · rintro ⟨⟨hword, hcache⟩, hhardware, hparallel, hcontrol⟩
    exact ⟨hcache, hword, hhardware, (h.writeEntry_eq_none_iff hcache a).2 hparallel, hcontrol⟩

variable [RegisterBank ρ]

lemma Coherent.clears_write (h : m.Coherent) (hl : m.listening = true) {w : Width} (a : Address)
    (v : Value w) :
    (m.write a v).trace.clears.length ≤ 1 ∧
      ((m.write a v).trace.clears ≠ [] ↔ m.Lands a ∨ m.ReportsDropped w a) := by
  have hclears : (m.write a v).trace.clears = (m.flat.store a v).clears :=
    congrArg Flat.Outcome.clears (h.write_flat a v)
  have hlisten : m.flat.listening = true := hl
  have hcache : m.flat.cache = m.cache := rfl
  have hregisters : (m.flat.writeRegister a v).clears = [] := by
    unfold Flat.writeRegister
    split <;> rfl
  rw [hclears, h.reportsDropped_iff, Lands]
  unfold Flat.store
  cases hregion : Region.ofAddress a <;> dsimp only
  case ram =>
    cases hstate : m.cache with
    | writeEnabled =>
      rw [hcache, hstate, if_pos rfl, Flat.report_of_listening hlisten]
      simp
    | writeDisabled =>
      rw [hcache, hstate, if_neg (by decide), Flat.clears_drop hlisten, hcache, hstate]
      cases w <;> simp
  case parallel =>
    rw [Flat.report_of_listening hlisten]
    simp
  case scratchpad => simp
  case io =>
    rw [hregisters]
    simp
  case cacheControl =>
    split
    · simp
    · rename_i hword
      rw [Flat.clears_drop hlisten, if_neg (fun hboth => hword hboth.1)]
      simp
  case bios =>
    rw [Flat.clears_drop hlisten, hcache]
    split <;> simp_all
  case unmapped =>
    rw [Flat.clears_drop hlisten, hcache]
    split <;> simp_all

lemma Coherent.ramImage_write (h : m.Coherent) {w : Width} (a : Address) (v : Value w) :
    (m.write a v).memory.ramImage.get = (m.flat.store a v).machine.ram :=
  congrArg (fun outcome => outcome.machine.ram) (h.write_flat a v)

lemma Coherent.clears_write_of_ram (h : m.Coherent) (hl : m.listening = true) {w : Width}
    {a : Address} (v : Value w) (hregion : Region.ofAddress a = .ram)
    (hcache : m.cache = .writeEnabled) :
    (m.write a v).trace.clears = [⟨reportedAddress w a, 1⟩] := by
  have hclears : (m.write a v).trace.clears = (m.flat.store a v).clears :=
    congrArg Flat.Outcome.clears (h.write_flat a v)
  rw [hclears, Flat.clears_store_of_ram hregion hcache, Flat.report_of_listening hl,
    reportedAddress_eq]

/-- A store to RAM covers all of its bytes but the unreported one. -/
lemma Coherent.covers_write_iff (h : m.Coherent) (hl : m.listening = true) {w : Width}
    {a : Address} (v : Value w) (hregion : Region.ofAddress a = .ram)
    (hcache : m.cache = .writeEnabled) {i : Nat} (hi : i < w.bytes) :
    (m.write a v).trace.Covers ((a.toNat + i) % ramSize) ↔
      unreported? w a ≠ some ((a.toNat + i) % ramSize) := by
  rw [Trace.Covers, h.clears_write_of_ram hl v hregion hcache]
  simp only [List.mem_singleton, exists_eq_left]
  exact covers_reportedAddress_iff a hi

/-- A guest store reports what it changes. -/
lemma Coherent.reportedBy_write (h : m.Coherent) (hl : m.listening = true) {w : Width}
    (a : Address) (v : Value w) :
    m.ReportedBy (m.write a v).memory (m.write a v).trace (unreported? w a)
      (m.Lands a ∨ m.ReportsDropped w a) := by
  obtain ⟨hlength, hdue⟩ := h.clears_write hl a v
  refine ⟨?_, hlength, hdue⟩
  intro p _ hchanged
  have hstored : (m.flat.store a v).machine.ram p ≠ m.flat.ram p := by
    rw [← h.ramImage_write]
    exact hchanged
  obtain ⟨⟨hregion, hcache⟩, i, hi, rfl⟩ := Flat.exists_of_store_ram_ne hstored
  exact h.covers_write_iff hl v hregion hcache hi

/-- A displaced store reports what it changes, at the RAM word it resolves to if it lands there. -/
lemma Coherent.reportedBy_writeRelative (h : m.Coherent) (hl : m.listening = true)
    (base : Address) (disp : Int32) (v : Value .word) :
    m.ReportedBy (m.writeRelative base disp v).memory (m.writeRelative base disp v).trace none
      ((Region.ofAddress base = .ram ∧ InGuards base disp ∧ m.cache = .writeEnabled) ∨
        m.Lands (displaced base disp) ∨ m.ReportsDropped .word (displaced base disp)) := by
  rw [h.writeRelative_eq, Region.ofAddress_eq_ram_iff]
  by_cases hin : (isRamPage base.page = true ∧ InGuards base disp) ∧ m.cache = .writeEnabled
  · have hram : Region.ofAddress (ramAddress base (ramOffset base disp)) = .ram :=
      (Region.ofAddress_eq_ram_iff _).2 (isRamPage_ramAddress _ _)
    have hword := h.reportedBy_write hl (ramAddress base (ramOffset base disp)) v
    rw [if_pos hin]
    refine ⟨hword.covers, hword.length_le, hword.ne_nil_iff.trans ?_⟩
    exact iff_of_true (.inl (.inr ⟨hram, hin.2⟩)) (.inl ⟨hin.1.1, hin.1.2, hin.2⟩)
  · have hword := h.reportedBy_write hl (displaced base disp) v
    rw [if_neg hin]
    refine ⟨hword.covers, hword.length_le, hword.ne_nil_iff.trans ?_⟩
    rw [← and_assoc, or_iff_right hin]

end Memory

/-! ### Bulk stores -/

namespace Memory

variable {ρ : Type} {m : Memory ρ}

/-- A run of bytes lies in the words that it touches. -/
lemma covers_wordsTouched {a : Address} {count p : Nat} (hlow : a.toNat % ramSize ≤ p)
    (hhigh : p < a.toNat % ramSize + count) (hp : p < ramSize) :
    CodeClear.Covers
      ⟨a.wordStart, wordsTouched (a.toNat % ramSize) (a.toNat % ramSize + count)⟩ p := by
  rw [CodeClear.covers_iff, a.toNat_wordStart]
  simp only [wordsTouched, ramSize] at hlow hhigh hp ⊢
  exact ⟨p - a.toNat % 0x200000 / 4 * 4, by omega, by omega⟩

/-- A bulk store reports what it changes. -/
lemma reportedBy_writeSlice (hl : m.listening = true) (a : Address) (data : ByteArray) :
    m.ReportedBy (m.writeSlice a data).memory (m.writeSlice a data).trace none
      (data.size ≠ 0 ∧ a.toNat % ramSize + data.size ≤ ramSize) := by
  by_cases hfit : ramSize < a.toNat % ramSize + data.size
  · rw [m.writeSlice_of_lt hfit]
    refine ⟨fun p _ hchanged => absurd rfl hchanged, Nat.zero_le 1, ?_⟩
    exact iff_of_false (fun hne => hne rfl) (fun hboth => Nat.not_le.2 hfit hboth.2)
  · have hin : ∀ p, (m.writeSlice a data).memory.ramImage.get p ≠ m.ramImage.get p →
        a.toNat % ramSize ≤ p ∧ p < a.toNat % ramSize + data.size := by
      intro p hchanged
      by_contra hout
      rw [m.writeSlice_of_le (Nat.not_lt.1 hfit), ramImage, Ram.view_modify,
        Image.get_patch_of_le _ (Nat.not_lt.1 hfit), dif_neg hout] at hchanged
      exact hchanged rfl
    by_cases hempty : data.size = 0
    · have hclears : (m.writeSlice a data).trace.clears = [] := by
        rw [m.writeSlice_of_le (Nat.not_lt.1 hfit), if_pos hempty]
        rfl
      refine ⟨fun p _ hchanged => ?_, ?_, ?_⟩
      · have hrange := hin p hchanged
        omega
      · rw [hclears]
        exact Nat.zero_le 1
      · rw [hclears]
        exact iff_of_false (fun hne => hne rfl) (fun hboth => hboth.1 hempty)
    · have hclears : (m.writeSlice a data).trace.clears =
          [⟨a.wordStart, wordsTouched (a.toNat % ramSize) (a.toNat % ramSize + data.size)⟩] := by
        rw [m.writeSlice_of_le (Nat.not_lt.1 hfit), if_neg hempty, report, if_pos hl]
        rfl
      refine ⟨fun p hp hchanged => ?_, ?_, ?_⟩
      · obtain ⟨hlow, hhigh⟩ := hin p hchanged
        refine iff_of_true ⟨_, ?_, covers_wordsTouched hlow hhigh hp⟩ (by simp)
        rw [hclears]
        exact List.mem_singleton_self _
      · rw [hclears]
        exact Nat.le_refl 1
      · rw [hclears]
        exact iff_of_true (List.cons_ne_nil _ _) ⟨hempty, Nat.not_lt.1 hfit⟩

end Memory

/-! ### Steps -/

namespace Session

variable {ρ : Type} [RegisterBank ρ]

lemma ramImage_step_write {s : Session ρ} (h : s.memory.Coherent) {w : Width} (a : Address)
    (v : Value w) :
    (s.step (.write w a v)).session.memory.ramImage.get =
      (s.memory.flat.store a v).machine.ram := h.ramImage_write a v

/-- Every store reports the RAM bytes it changes, save the second byte of a half that straddles two
words, which is not reported while the first is. There is at most one report for a store. There is
one if it lands in RAM or the parallel window, and otherwise only for a word that is dropped while
stores to RAM are off. -/
theorem stores_reported (s : Session ρ) (hm : s.memory.Reachable)
    (hl : s.memory.listening = true) :
    (∀ next : Step ρ, next.IsReported →
      s.memory.ReportedBy (s.step next).session.memory (s.step next).trace next.unreported?
        (s.memory.Reports next)) ∧
    ∀ (a : Address) (v : Value .half), Region.ofAddress a = .ram →
      s.memory.cache = .writeEnabled → a.toNat % 4 = 3 →
        (s.step (.write .half a v)).trace.Covers (a.toNat % ramSize) ∧
        ¬(s.step (.write .half a v)).trace.Covers ((a.toNat + 1) % ramSize) := by
  have h : s.memory.Coherent := hm.coherent
  constructor
  · intro next hnext
    cases hnext with
    | guest hstore =>
      cases hstore with
      | write w a v => exact h.reportedBy_write hl a v
      | writeRelative base disp v => exact h.reportedBy_writeRelative hl base disp v
    | writeSlice a data => exact Memory.reportedBy_writeSlice hl a data
  · intro a v hregion hcache hstraddles
    have hgap : ConsoleMemory.unreported? .half a = some ((a.toNat + 1) % ramSize) :=
      if_pos ⟨rfl, hstraddles⟩
    constructor
    · refine (h.covers_write_iff hl v hregion hcache (i := 0) (by decide)).2 ?_
      rw [hgap]
      intro heq
      have hsame := Option.some.inj heq
      simp only [ramSize] at hsame
      omega
    · intro hcovers
      exact (h.covers_write_iff hl v hregion hcache (i := 1) (by decide)).1 hcovers hgap

/-- A half at the last byte of RAM changes the first byte of it and reports the last word only. -/
theorem stores_reported_at_end :
    let s := (start Empty {} {} false).1.after [.attachListener]
    let r := s.step (.write .half 0x801FFFFF#32 0xBEEF#16)
    s.memory.Reachable ∧ s.memory.listening = true ∧
      r.session.memory.ramImage.get 0 = 0xBE ∧ s.memory.ramImage.get 0 = 0 ∧
      r.trace.Covers 0x1FFFFF ∧ ¬r.trace.Covers 0 := by
  intro s r
  have hs : s.memory.Reachable := ⟨{}, {}, false, [.attachListener], rfl⟩
  have hregion : Region.ofAddress 0x801FFFFF#32 = .ram := by decide
  have hstored : ∀ f : Flat Empty, f.cache = .writeEnabled →
      (f.store (w := .half) 0x801FFFFF#32 0xBEEF#16).machine.ram 0 = 0xBE := by
    intro f hcache
    unfold Flat.store
    rw [hregion]
    dsimp only
    rw [if_pos hcache]
    rfl
  have hnew : r.session.memory.ramImage.get 0 = 0xBE :=
    (congrFun (ramImage_step_write hs.coherent _ _) 0).trans (hstored _ rfl)
  have hold : s.memory.ramImage.get 0 = 0 := Image.get_zero 0
  obtain ⟨hreported, hstraddling⟩ := stores_reported s hs rfl
  have hcovers := (hreported _ (.guest (.write .half 0x801FFFFF#32 0xBEEF#16))).covers 0
    (by decide) (by rw [hold, hnew]; decide)
  obtain ⟨hfirst, -⟩ := hstraddling 0x801FFFFF#32 0xBEEF#16 hregion rfl (by decide)
  exact ⟨hs, rfl, hnew, hold, hfirst, fun hzero => hcovers.1 hzero (by decide)⟩

end Session

end ConsoleMemory
