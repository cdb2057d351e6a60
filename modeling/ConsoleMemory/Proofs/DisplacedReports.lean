import ConsoleMemory.Proofs.CodeReports

/-!
# Reports of displaced stores

A displaced store into RAM or its guards is reported once, whether stores to RAM are on or off, and
the address in the report stands for the RAM word that the store names. While they are on this
address is in RAM. While they are off it is the sum of base and displacement, and there is nothing
at that address if the sum leaves the 8 MB window of the base.
-/

namespace ConsoleMemory.Memory

/-- Bytes of a RAM window. -/
def ramWindowSize : Nat := ramPages * pageSize

/-- A displacement stays in the RAM window of its base. -/
def StaysInWindow (base : Address) (disp : Int32) : Prop :=
  0 ≤ (base.toNat % ramWindowSize : Nat) + disp.toInt ∧
    (base.toNat % ramWindowSize : Nat) + disp.toInt < ramWindowSize

instance (base : Address) (disp : Int32) : Decidable (StaysInWindow base disp) :=
  inferInstanceAs (Decidable (_ ∧ _))

variable {base : Address} {disp : Int32}

lemma ofAddress_displaced_eq_ram_iff (hbase : isRamPage base.page = true)
    (hin : InGuards base disp) :
    Region.ofAddress (displaced base disp) = .ram ↔ StaysInWindow base disp := by
  have hpage := (isRamPage_iff _).1 hbase
  have haddr := toNat_displaced base disp
  obtain ⟨hlow, hhigh⟩ := hin
  rw [Region.ofAddress_eq_ram_iff, isRamPage_iff, StaysInWindow, ramWindowSize]
  simp only [Address.page, pageSize, ramPages, ramSize, guardSize] at hpage hlow hhigh ⊢
  omega

variable {ρ : Type} {m : Memory ρ}

/-- The address that a displaced store into RAM or its guards is reported at. -/
def relativeReport (m : Memory ρ) (base : Address) (disp : Int32) : Address :=
  match m.cache with
  | .writeEnabled => ramAddress base (ramOffset base disp)
  | .writeDisabled => displaced base disp

lemma relativeReport_mod (m : Memory ρ) (base : Address) (disp : Int32) :
    ((m.relativeReport base disp).toNat : Int) % ramSize =
      (base.toNat + disp.toInt) % ramSize := by
  have hword : (m.relativeReport base disp).toNat % ramSize =
      Ram.wrapOffset (ramOffset base disp) := by
    unfold relativeReport
    split
    · exact ramAddress_mod _ _
    · exact displaced_mod _ _
  have hoffset := toInt_ramOffset base disp
  rw [Ram.wrapOffset, hoffset] at hword
  simp only [ramSize] at hword ⊢
  omega

lemma ofAddress_relativeReport (m : Memory ρ) (hbase : isRamPage base.page = true)
    (hin : InGuards base disp) :
    Region.ofAddress (m.relativeReport base disp) =
      if m.cache = .writeEnabled ∨ StaysInWindow base disp then .ram else .unmapped := by
  unfold relativeReport
  cases hcache : m.cache with
  | writeEnabled =>
    rw [if_pos (.inl rfl)]
    exact (Region.ofAddress_eq_ram_iff _).2 (isRamPage_ramAddress _ _)
  | writeDisabled =>
    have hram := ofAddress_displaced_eq_ram_iff hbase hin
    by_cases hstays : StaysInWindow base disp
    · rw [if_pos (.inr hstays)]
      exact hram.2 hstays
    · have hleaves : ¬(CacheState.writeDisabled = .writeEnabled ∨ StaysInWindow base disp) := by
        rintro (hopen | hin)
        · cases hopen
        · exact hstays hin
      rw [if_neg hleaves]
      exact (ofAddress_displaced hbase hin).resolve_left (fun h => hstays (hram.1 h))

variable [RegisterBank ρ]

/-- A word that is not stored because stores to RAM are off is reported where it was to go. -/
lemma Coherent.clears_write_of_disabled (h : m.Coherent) (hl : m.listening = true)
    (hcache : m.cache = .writeDisabled) {a : Address} (v : Value .word)
    (ha : Region.ofAddress a = .ram ∨ Region.ofAddress a = .unmapped) :
    (m.write a v).trace.clears = [⟨a, 1⟩] := by
  have hclears : (m.write a v).trace.clears = (m.flat.store a v).clears :=
    congrArg Flat.Outcome.clears (h.write_flat a v)
  have hdrop : (m.flat.drop .word a).clears = [⟨a, 1⟩] := by
    rw [Flat.clears_drop hl]
    exact if_pos ⟨rfl, hcache⟩
  have hshut : ¬m.flat.cache = .writeEnabled := not_enabled_of_disabled hcache
  rw [hclears]
  unfold Flat.store
  rcases ha with ha | ha <;> rw [ha] <;> dsimp only
  · rw [if_neg hshut]
    exact hdrop
  · exact hdrop

lemma Coherent.clears_writeRelative (h : m.Coherent) (hl : m.listening = true) (v : Value .word)
    (hbase : isRamPage base.page = true) (hin : InGuards base disp) :
    (m.writeRelative base disp v).trace.clears = [⟨m.relativeReport base disp, 1⟩] := by
  unfold relativeReport
  cases hcache : m.cache with
  | writeEnabled =>
    have hram := (Region.ofAddress_eq_ram_iff _).2 (isRamPage_ramAddress base (ramOffset base disp))
    rw [h.writeRelative_eq, if_pos ⟨⟨hbase, hin⟩, hcache⟩]
    exact h.clears_write_of_ram hl v hram hcache
  | writeDisabled =>
    rw [h.writeRelative_of_disabled hcache]
    exact h.clears_write_of_disabled hl hcache v (ofAddress_displaced hbase hin)

/-- A displaced store into RAM or its guards makes one report, of one word, at an address congruent
to the sum of base and displacement modulo the size of RAM. The address is in RAM while stores to
RAM are on. While they are off it is in RAM just if the sum stays in the window of the base, and
nothing is mapped there otherwise. -/
theorem relative_store_reported (hm : m.Reachable) (hl : m.listening = true) (v : Value .word)
    (hbase : Region.ofAddress base = .ram) (hin : InGuards base disp) :
    ∃ a : Address,
      (m.writeRelative base disp v).trace.clears = [⟨a, 1⟩] ∧
      (a.toNat : Int) % ramSize = (base.toNat + disp.toInt) % ramSize ∧
      (Region.ofAddress a = .ram ↔ m.cache = .writeEnabled ∨ StaysInWindow base disp) ∧
      (Region.ofAddress a ≠ .ram → Region.ofAddress a = .unmapped) := by
  have hpage := (Region.ofAddress_eq_ram_iff base).1 hbase
  have hregion := m.ofAddress_relativeReport hpage hin
  refine ⟨m.relativeReport base disp, hm.coherent.clears_writeRelative hl v hpage hin,
    m.relativeReport_mod base disp, ?_, ?_⟩
  · rw [hregion]
    split <;> simp_all
  · rw [hregion]
    split <;> simp

/-- A machine whose stores to RAM are off, with someone listening. -/
def isolated : Session Empty :=
  (Session.start Empty {} {} false).1.after
    [.write .word cacheControlAddress 0x800#32, .attachListener]

lemma reachable_isolated : isolated.memory.Reachable :=
  ⟨{}, {}, false, [.write .word cacheControlAddress 0x800#32, .attachListener], rfl⟩

lemma cache_isolated : isolated.memory.cache = .writeDisabled :=
  (Session.after_cache _ (Session.start_coherent {} {} false)).trans (by decide)

/-- Four bytes below the second 2 MB image of a segment the report is in RAM all the same. -/
theorem relative_store_reported_second_image :
    isolated.memory.Reachable ∧ isolated.memory.listening = true ∧
      Region.ofAddress 0x80200000#32 = .ram ∧ InGuards 0x80200000#32 (-4) ∧
      ∃ a : Address,
        (isolated.memory.writeRelative 0x80200000#32 (-4) 7#32).trace.clears = [⟨a, 1⟩] ∧
        (a.toNat : Int) % ramSize = 0x1FFFFC ∧ Region.ofAddress a = .ram := by
  have hbase : Region.ofAddress 0x80200000#32 = .ram := by decide
  have hin : InGuards 0x80200000#32 (-4) := by decide
  have hstays : StaysInWindow 0x80200000#32 (-4) := by decide
  obtain ⟨a, hclears, hmod, hregion, -⟩ :=
    relative_store_reported reachable_isolated rfl 7#32 hbase hin
  exact ⟨reachable_isolated, rfl, hbase, hin, a, hclears, hmod, hregion.2 (.inr hstays)⟩

/-- Four bytes below the first image of a segment the guard stands for the last word of RAM, but
the report of a store that is dropped is at an address where nothing is mapped. -/
theorem relative_report_unmapped :
    isolated.memory.Reachable ∧ isolated.memory.listening = true ∧
      Region.ofAddress 0x80000000#32 = .ram ∧ InGuards 0x80000000#32 (-4) ∧
      (isolated.memory.writeRelative 0x80000000#32 (-4) 7#32).trace.clears =
        [⟨0x7FFFFFFC#32, 1⟩] ∧
      Region.ofAddress 0x7FFFFFFC#32 = .unmapped := by
  have hbase : Region.ofAddress 0x80000000#32 = .ram := by decide
  have hin : InGuards 0x80000000#32 (-4) := by decide
  have hreport : isolated.memory.relativeReport 0x80000000#32 (-4) = 0x7FFFFFFC#32 := by
    rw [relativeReport, cache_isolated]
    decide
  have hclears := reachable_isolated.coherent.clears_writeRelative rfl 7#32
    ((Region.ofAddress_eq_ram_iff _).1 hbase) hin
  rw [hreport] at hclears
  exact ⟨reachable_isolated, rfl, hbase, hin, hclears, by decide⟩

end ConsoleMemory.Memory
