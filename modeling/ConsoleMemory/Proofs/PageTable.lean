import ConsoleMemory.Memory
import ConsoleMemory.Proofs.Region

/-!
# What the page tables hold

The tables are made by fills and copies. This file says in closed form what every page of them
holds: the read table by the kind of the page, the write table by the kind of the page and the cache
state. Switching stores to RAM off or on leads from one closed form to the other.
-/

namespace ConsoleMemory

/-! ### Windows -/

namespace Table

variable {α : Type}

lemma get_eq_getElem (t : Table α) (page : Fin pageCount) : t.get page = t[page.val] := rfl

lemma getElem_fill_one (t : Table α) (start : Nat) (entry : Nat → α) (h : start + 1 ≤ pageCount)
    (page : Nat) (hp : page < pageCount) :
    (t.fill start 1 entry h)[page] = if page = start then entry 0 else t[page] := by
  rw [getElem_fill]
  by_cases heq : page = start
  · subst heq
    rw [if_pos ⟨Nat.le_refl _, Nat.lt_succ_self _⟩, if_pos rfl, Nat.sub_self]
  · have hout : ¬(start ≤ page ∧ page < start + 1) := by omega
    rw [if_neg hout, if_neg heq]

/-- The windows of the kernel segments are copied from the user segment, so the first copy must not
touch the source of the second. -/
lemma getElem_fillWindows (t : Table α) (first : Segment → Nat) (count : Nat) (entry : Nat → α)
    (h : ∀ s, first s + count ≤ pageCount) (hlow : first .kuseg + count ≤ first .kseg0)
    (page : Nat) (hp : page < pageCount) :
    (t.fillWindows first count entry h)[page] =
      if first .kseg1 ≤ page ∧ page < first .kseg1 + count then entry (page - first .kseg1)
      else if first .kseg0 ≤ page ∧ page < first .kseg0 + count then entry (page - first .kseg0)
      else if first .kuseg ≤ page ∧ page < first .kuseg + count then entry (page - first .kuseg)
      else t[page] := by
  have huser := h .kuseg
  have hfill : ∀ q (hq : q < pageCount), first .kuseg ≤ q → q < first .kuseg + count →
      (t.fill (first .kuseg) count entry (h .kuseg))[q] = entry (q - first .kuseg) := by
    intro q hq hle hlt
    rw [getElem_fill, if_pos ⟨hle, hlt⟩]
  have hlower : ∀ q (hq : q < pageCount), first .kuseg ≤ q → q < first .kuseg + count →
      ((t.fill (first .kuseg) count entry (h .kuseg)).copy (first .kuseg) count (first .kseg0)
        (h .kuseg) (h .kseg0))[q] = entry (q - first .kuseg) := by
    intro q hq hle hlt
    have hout : ¬(first .kseg0 ≤ q ∧ q < first .kseg0 + count) := by omega
    rw [getElem_copy, dif_neg hout, hfill q hq hle hlt]
  unfold fillWindows
  simp only
  rw [getElem_copy]
  by_cases hin1 : first .kseg1 ≤ page ∧ page < first .kseg1 + count
  · have hq := hlower (first .kuseg + (page - first .kseg1)) (by omega) (by omega) (by omega)
    have hsub : first .kuseg + (page - first .kseg1) - first .kuseg = page - first .kseg1 := by
      omega
    rw [dif_pos hin1, if_pos hin1, get_eq_getElem, hq, hsub]
  · rw [dif_neg hin1, if_neg hin1, getElem_copy]
    by_cases hin0 : first .kseg0 ≤ page ∧ page < first .kseg0 + count
    · have hq := hfill (first .kuseg + (page - first .kseg0)) (by omega) (by omega) (by omega)
      have hsub : first .kuseg + (page - first .kseg0) - first .kuseg = page - first .kseg0 := by
        omega
      rw [dif_pos hin0, if_pos hin0, get_eq_getElem, hq, hsub]
    · rw [dif_neg hin0, if_neg hin0, getElem_fill]

/-- A filled window whose entries depend on the page alone, and not on the segment. -/
lemma getElem_fillWindows_of_forall (t : Table α) (first : Segment → Nat) (count : Nat)
    (entry : Nat → α) (h : ∀ s, first s + count ≤ pageCount)
    (hlow : first .kuseg + count ≤ first .kseg0) (page : Nat) (hp : page < pageCount) (value : α)
    (hentry : ∀ s : Segment, first s ≤ page → page < first s + count →
      entry (page - first s) = value) :
    (t.fillWindows first count entry h)[page] =
      if Segment.all.any fun s => decide (first s ≤ page ∧ page < first s + count) then value
      else t[page] := by
  rw [getElem_fillWindows _ _ _ _ h hlow]
  simp only [Segment.all, List.any_cons, List.any_nil, Bool.or_eq_true, decide_eq_true_eq,
    Bool.false_eq_true, or_false]
  by_cases h1 : first .kseg1 ≤ page ∧ page < first .kseg1 + count
  · rw [if_pos h1, if_pos (.inr (.inr h1)), hentry .kseg1 h1.1 h1.2]
  · rw [if_neg h1]
    by_cases h0 : first .kseg0 ≤ page ∧ page < first .kseg0 + count
    · rw [if_pos h0, if_pos (.inr (.inl h0)), hentry .kseg0 h0.1 h0.2]
    · rw [if_neg h0]
      by_cases hu : first .kuseg ≤ page ∧ page < first .kuseg + count
      · rw [if_pos hu, if_pos (.inl hu), hentry .kuseg hu.1 hu.2]
      · have hout : ¬((first .kuseg ≤ page ∧ page < first .kuseg + count) ∨
            (first .kseg0 ≤ page ∧ page < first .kseg0 + count) ∨
            (first .kseg1 ≤ page ∧ page < first .kseg1 + count)) := by tauto
        rw [if_neg hu, if_neg hout]

lemma getElem_clearWindows (t : Table α) (first : Segment → Nat) (count : Nat) (value : α)
    (h : ∀ s, first s + count ≤ pageCount) (page : Nat) (hp : page < pageCount) :
    (t.clearWindows first count value h)[page] =
      if Segment.all.any fun s => decide (first s ≤ page ∧ page < first s + count) then value
      else t[page] := by
  unfold clearWindows
  simp only [Segment.all, List.foldl_cons, List.foldl_nil, getElem_fill, List.any_cons,
    List.any_nil, Bool.or_eq_true, decide_eq_true_eq]
  by_cases h0 : first .kuseg ≤ page ∧ page < first .kuseg + count <;>
  by_cases h1 : first .kseg0 ≤ page ∧ page < first .kseg0 + count <;>
  by_cases h2 : first .kseg1 ≤ page ∧ page < first .kseg1 + count <;>
    simp [h0, h1, h2]

end Table

/-! ### Entries by page -/

/-- The entry of a page in the read table. -/
def PageEntry.ofPage (page : Nat) : PageEntry :=
  if isBiosPage page then .rom (page % biosPages)
  else if page = Segment.hardwarePage .kuseg then .hardware
  else if page = parallelPage then .parallel
  else if isRamPage page then .ram page
  else .sink

lemma PageEntry.ofPage_of_isRamPage {page : Nat} (h : isRamPage page = true) :
    ofPage page = .ram page := by
  have hpage := (isRamPage_iff page).1 h
  have hbios : ¬isBiosPage page = true := by rw [isBiosPage_iff]; omega
  have hhardware : page ≠ Segment.hardwarePage .kuseg := by rw [Segment.hardwarePage]; omega
  have hparallel : page ≠ parallelPage := by rw [parallelPage]; omega
  rw [ofPage, if_neg hbios, if_neg hhardware, if_neg hparallel, if_pos h]

lemma PageEntry.ofPage_of_isBiosPage {page : Nat} (h : isBiosPage page = true) :
    ofPage page = .rom (page % biosPages) := by
  rw [ofPage, if_pos h]

lemma PageEntry.ofPage_eq_sink {page : Nat} (hhardware : ¬isHardwarePage page = true)
    (hparallel : page ≠ parallelPage) (hram : ¬isRamPage page = true)
    (hbios : ¬isBiosPage page = true) : ofPage page = .sink := by
  have huser : page ≠ Segment.hardwarePage .kuseg := by
    rintro rfl
    exact hhardware (by decide)
  rw [ofPage, if_neg hbios, if_neg huser, if_neg hparallel, if_neg hram]

lemma PageEntry.ofPage_parallelPage : ofPage parallelPage = .parallel := by decide

/-- The ROM windows start at multiples of their length. -/
lemma Segment.sub_biosPage (s : Segment) {page : Nat} (h : s.biosPage ≤ page)
    (hlt : page < s.biosPage + biosPages) : page - s.biosPage = page % biosPages := by
  cases s <;> simp only [Segment.biosPage, biosPages] at h hlt ⊢ <;> omega

namespace PageTables

/-- The entry of a page in the write table, for a cache state. The parallel window has one always
and RAM while stores to it are enabled, and it is that of the read table. -/
def writeEntryOf (cache : CacheState) (page : Nat) : Option PageEntry :=
  if page = parallelPage ∨ (isRamPage page ∧ cache = .writeEnabled) then some (.ofPage page)
  else none

lemma writeEntryOf_of_isRamPage (cache : CacheState) {page : Nat} (h : isRamPage page = true) :
    writeEntryOf cache page = if cache = .writeEnabled then some (.ram page) else none := by
  have hparallel : page ≠ parallelPage := by
    rintro rfl
    simp only [isRamPage_parallelPage, Bool.false_eq_true] at h
  simp only [writeEntryOf, hparallel, h, true_and, false_or, PageEntry.ofPage_of_isRamPage h]

lemma writeEntryOf_parallelPage (cache : CacheState) :
    writeEntryOf cache parallelPage = some .parallel := by
  rw [writeEntryOf, if_pos (.inl rfl), PageEntry.ofPage_parallelPage]

lemma writeEntryOf_eq_none (cache : CacheState) {page : Nat} (hparallel : page ≠ parallelPage)
    (hram : ¬isRamPage page = true) : writeEntryOf cache page = none := by
  have hout : ¬(page = parallelPage ∨ isRamPage page = true ∧ cache = .writeEnabled) := by tauto
  rw [writeEntryOf, if_neg hout]

/-- The tables in a cache state. -/
def ofCache (cache : CacheState) : PageTables where
  read := initialRead
  write := Vector.ofFn fun page => writeEntryOf cache page.val

/-- The RAM windows start at multiples of 32 pages, so the page number itself tells the place in the
2 MB. -/
lemma getElem_fillRam {α : Type} (t : Table α) (entry : Nat → α)
    (hentry : ∀ i j, i % 0x20 = j % 0x20 → entry i = entry j) (page : Nat) (hp : page < pageCount) :
    (t.fillWindows Segment.ramPage ramPages entry ramWindow_le)[page] =
      if isRamPage page then entry page else t[page] := by
  rw [Table.getElem_fillWindows_of_forall _ _ _ _ _ (by decide) page hp (entry page)]
  · rfl
  · intro s hle _
    apply hentry
    cases s <;> simp only [Segment.ramPage] at hle ⊢ <;> omega

lemma ram_congr (i j : Nat) (h : i % 0x20 = j % 0x20) : PageEntry.ram i = PageEntry.ram j := by
  rw [PageEntry.ram, PageEntry.ram, h]

/-- Every page of the read table leads where its kind says. -/
lemma getElem_initialRead (page : Nat) (hp : page < pageCount) :
    initialRead[page] = PageEntry.ofPage page := by
  unfold initialRead
  simp only
  rw [Table.getElem_fillWindows_of_forall _ _ _ _ _ (by decide) page hp (.rom (page % biosPages)),
    Table.getElem_fill_one, Table.getElem_fill_one, getElem_fillRam _ _ ram_congr,
    Vector.getElem_replicate]
  · rfl
  · intro s hle hlt
    rw [s.sub_biosPage hle hlt]

/-- Whatever the RAM windows of the write table held, after mapping they hold RAM. -/
lemma getElem_mapRamWrites (t : PageTables) (page : Nat) (hp : page < pageCount) :
    t.mapRamWrites.write[page] = if isRamPage page then some (.ofPage page) else t.write[page] := by
  unfold mapRamWrites
  simp only
  rw [getElem_fillRam _ _ (fun i j h => congrArg some (ram_congr i j h))]
  split
  · rename_i h
    rw [PageEntry.ofPage_of_isRamPage h]
  · rfl

lemma getElem_unmapRamWrites (t : PageTables) (page : Nat) (hp : page < pageCount) :
    t.unmapRamWrites.write[page] = if isRamPage page then none else t.write[page] :=
  Table.getElem_clearWindows _ _ _ _ ramWindow_le page hp

lemma getElem_ofCache (cache : CacheState) (page : Nat) (hp : page < pageCount) :
    (ofCache cache).write[page] = writeEntryOf cache page := by
  simp only [ofCache, Vector.getElem_ofFn]

/-- Mapping RAM leads to the tables of enabled stores from those of either state. -/
lemma mapRamWrites_ofCache (cache : CacheState) :
    (ofCache cache).mapRamWrites = ofCache .writeEnabled := by
  have hwrite : (ofCache cache).mapRamWrites.write = (ofCache .writeEnabled).write := by
    ext page hp : 1
    rw [getElem_mapRamWrites, getElem_ofCache, getElem_ofCache]
    by_cases hram : isRamPage page = true
    · rw [if_pos hram, writeEntryOf_of_isRamPage _ hram, if_pos rfl,
        PageEntry.ofPage_of_isRamPage hram]
    · simp only [writeEntryOf, hram, Bool.false_eq_true, false_and, or_false, if_false]
  exact congrArg (PageTables.mk initialRead) hwrite

/-- Unmapping RAM leads to the tables of disabled stores from those of either state. -/
lemma unmapRamWrites_ofCache (cache : CacheState) :
    (ofCache cache).unmapRamWrites = ofCache .writeDisabled := by
  have hwrite : (ofCache cache).unmapRamWrites.write = (ofCache .writeDisabled).write := by
    ext page hp : 1
    rw [getElem_unmapRamWrites, getElem_ofCache, getElem_ofCache]
    by_cases hram : isRamPage page = true
    · rw [if_pos hram, writeEntryOf_of_isRamPage _ hram]
      rfl
    · simp only [writeEntryOf, hram, Bool.false_eq_true, false_and, or_false, if_false]
  exact congrArg (PageTables.mk initialRead) hwrite

/-- A fresh memory has the tables of enabled stores. -/
lemma initial_eq : initial = ofCache .writeEnabled := by
  have hwrite : initial.write = (ofCache .writeEnabled).write := by
    ext page hp : 1
    unfold initial
    simp only
    rw [getElem_mapRamWrites, getElem_ofCache, Table.getElem_fill_one, Vector.getElem_replicate]
    by_cases hram : isRamPage page = true
    · rw [if_pos hram, writeEntryOf_of_isRamPage _ hram, if_pos rfl,
        PageEntry.ofPage_of_isRamPage hram]
    · rw [if_neg hram]
      by_cases hparallel : page = parallelPage
      · rw [hparallel, if_pos rfl, writeEntryOf_parallelPage]
      · rw [if_neg hparallel, writeEntryOf_eq_none _ hparallel hram]
  exact congrArg (PageTables.mk initialRead) hwrite

/-! ### Entries by address -/

lemma readEntry_ofCache (cache : CacheState) (a : Address) :
    (ofCache cache).readEntry a = PageEntry.ofPage a.page :=
  getElem_initialRead a.page a.page_lt

lemma writeEntry_ofCache (cache : CacheState) (a : Address) :
    (ofCache cache).writeEntry a = writeEntryOf cache a.page :=
  getElem_ofCache cache a.page a.page_lt

end PageTables

end ConsoleMemory
