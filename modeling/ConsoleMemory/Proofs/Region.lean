import ConsoleMemory.Region
import Mathlib.Tactic.Common

/-!
# Pages and regions

The kinds of pages as ranges of page numbers, and what the region of an address says about its page.
-/

namespace ConsoleMemory

lemma isHardwarePage_iff (page : Nat) :
    isHardwarePage page = true ↔ page = 0x1F80 ∨ page = 0x9F80 ∨ page = 0xBF80 := by
  simp [isHardwarePage, Segment.all, Segment.hardwarePage]

lemma isRamPage_iff (page : Nat) :
    isRamPage page = true ↔
      page < 0x80 ∨ (0x8000 ≤ page ∧ page < 0x8080) ∨ (0xA000 ≤ page ∧ page < 0xA080) := by
  simp only [isRamPage, Segment.all, List.any_cons, List.any_nil, Bool.or_eq_true,
    decide_eq_true_eq, Bool.false_eq_true, or_false]
  simp only [Segment.ramPage, ramPages]
  omega

lemma isRamPage_parallelPage : isRamPage parallelPage = false := by decide

lemma isBiosPage_iff (page : Nat) :
    isBiosPage page = true ↔
      (0x1FC0 ≤ page ∧ page < 0x1FC8) ∨ (0x9FC0 ≤ page ∧ page < 0x9FC8) ∨
        (0xBFC0 ≤ page ∧ page < 0xBFC8) := by
  simp only [isBiosPage, Segment.all, List.any_cons, List.any_nil, Bool.or_eq_true,
    decide_eq_true_eq, Bool.false_eq_true, or_false]
  simp only [Segment.biosPage, biosPages]

namespace Region

/-- What a region says about its addresses. -/
lemma ofAddress_spec (a : Address) :
    match ofAddress a with
    | .scratchpad => isHardwarePage a.page = true ∧ a.offset < scratchpadSize
    | .io => isHardwarePage a.page = true ∧ ¬a.offset < scratchpadSize
    | .cacheControl => ¬isHardwarePage a.page = true ∧ a = cacheControlAddress
    | .parallel => ¬isHardwarePage a.page = true ∧ a.page = parallelPage
    | .ram => ¬isHardwarePage a.page = true ∧ isRamPage a.page = true
    | .bios => ¬isHardwarePage a.page = true ∧ isBiosPage a.page = true
    | .unmapped => ¬isHardwarePage a.page = true ∧ a ≠ cacheControlAddress ∧
        a.page ≠ parallelPage ∧ ¬isRamPage a.page = true ∧ ¬isBiosPage a.page = true := by
  unfold ofAddress
  by_cases hhardware : isHardwarePage a.page = true
  · rw [if_pos hhardware]
    by_cases hscratch : a.offset < scratchpadSize
    · rw [if_pos hscratch]
      exact ⟨hhardware, hscratch⟩
    · rw [if_neg hscratch]
      exact ⟨hhardware, hscratch⟩
  · rw [if_neg hhardware]
    by_cases hcontrol : a = cacheControlAddress
    · rw [if_pos hcontrol]
      exact ⟨hhardware, hcontrol⟩
    · rw [if_neg hcontrol]
      by_cases hparallel : a.page = parallelPage
      · rw [if_pos hparallel]
        exact ⟨hhardware, hparallel⟩
      · rw [if_neg hparallel]
        by_cases hram : isRamPage a.page = true
        · rw [if_pos hram]
          exact ⟨hhardware, hram⟩
        · rw [if_neg hram]
          by_cases hbios : isBiosPage a.page = true
          · rw [if_pos hbios]
            exact ⟨hhardware, hbios⟩
          · rw [if_neg hbios]
            exact ⟨hhardware, hcontrol, hparallel, hram, hbios⟩

lemma page_cacheControlAddress : cacheControlAddress.page = 0xFFFE := by decide

/-- The region of an address is RAM exactly on the pages of the RAM windows. -/
lemma ofAddress_eq_ram_iff (a : Address) : ofAddress a = .ram ↔ isRamPage a.page = true := by
  have hspec := ofAddress_spec a
  constructor
  · intro h
    rw [h] at hspec
    exact hspec.2
  · intro h
    have hpage := (isRamPage_iff _).1 h
    have hhardware : ¬isHardwarePage a.page = true := by rw [isHardwarePage_iff]; omega
    have hcontrol : a ≠ cacheControlAddress := by
      rintro rfl
      rw [page_cacheControlAddress] at hpage
      omega
    have hparallel : a.page ≠ parallelPage := by rw [parallelPage]; omega
    rw [ofAddress, if_neg hhardware, if_neg hcontrol, if_neg hparallel, if_pos h]

end Region

end ConsoleMemory
