import ConsoleMemory.Region

/-!
# Page tables

Each page leads to a place in one of the buffers. The read table has an entry for every page, the
sink where nothing is mapped. The write table has entries for the parallel window and, while stores
to RAM are enabled, for the RAM windows. Windows are filled once and then copied to the other
segments; after a fill or a copy `getElem_fill` and `getElem_copy` say what every page holds.
-/

namespace ConsoleMemory

/-- The buffers a page can lead to. -/
inductive Buffer where
  | ram
  | parallel
  | hardware
  | rom
  | sink
  deriving DecidableEq, Repr

/-- A buffer and the position in it of a page's first byte. -/
structure PageEntry where
  buffer : Buffer
  base : Nat
  deriving DecidableEq, Repr

namespace PageEntry

/-- Pages where nothing is mapped. -/
def sink : PageEntry := ⟨.sink, 0⟩

/-- The page numbered `i` of a RAM window; the 2 MB repeat every 32 pages. -/
def ram (i : Nat) : PageEntry := ⟨.ram, i % 0x20 * pageSize⟩

/-- The page numbered `i` of a ROM window. -/
def rom (i : Nat) : PageEntry := ⟨.rom, i * pageSize⟩

/-- The parallel window. -/
def parallel : PageEntry := ⟨.parallel, 0⟩

/-- The hardware window. -/
def hardware : PageEntry := ⟨.hardware, 0⟩

end PageEntry

/-- One entry for every page. -/
abbrev Table (α : Type) := Vector α pageCount

namespace Table

variable {α : Type}

/-- Sets `count` entries from page `start` on. -/
def fill (t : Table α) (start count : Nat) (entry : Nat → α) (h : start + count ≤ pageCount) :
    Table α :=
  count.fold (fun i hi (t : Table α) => t.set (start + i) (entry i) (by omega)) t

/-- Copies `count` entries from page `source` on to page `target` on. -/
def copy (t : Table α) (source count target : Nat) (hsource : source + count ≤ pageCount)
    (htarget : target + count ≤ pageCount) : Table α :=
  count.fold
    (fun i hi (u : Table α) => u.set (target + i) (t.get ⟨source + i, by omega⟩) (by omega)) t

theorem getElem_fill (t : Table α) (start count : Nat) (entry : Nat → α)
    (h : start + count ≤ pageCount) (page : Nat) (hp : page < pageCount) :
    (t.fill start count entry h)[page] =
      if start ≤ page ∧ page < start + count then entry (page - start) else t[page] := by
  unfold fill
  induction count with
  | zero =>
    have hno : ¬(start ≤ page ∧ page < start + 0) := by omega
    simp only [Nat.fold_zero, if_neg hno]
  | succ count ih =>
    rw [Nat.fold_succ, Vector.getElem_set _ hp, ih (by omega)]
    by_cases heq : start + count = page
    · subst heq
      have hin : start ≤ start + count ∧ start + count < start + (count + 1) := by omega
      have hsub : start + count - start = count := by omega
      rw [if_pos rfl, if_pos hin, hsub]
    · rw [if_neg heq]
      by_cases hold : start ≤ page ∧ page < start + count
      · have hnew : start ≤ page ∧ page < start + (count + 1) := by omega
        rw [if_pos hold, if_pos hnew]
      · have hnew : ¬(start ≤ page ∧ page < start + (count + 1)) := by omega
        rw [if_neg hold, if_neg hnew]

theorem getElem_copy (t : Table α) {source count target : Nat} (h : source + count ≤ pageCount)
    (htarget : target + count ≤ pageCount) (page : Nat) (hp : page < pageCount) :
    (t.copy source count target h htarget)[page] =
      if hin : target ≤ page ∧ page < target + count then t.get ⟨source + (page - target), by omega⟩
      else t[page] := by
  have main : ∀ (k : Nat) (hk : k ≤ count),
      (k.fold
          (fun i hi (u : Table α) =>
            u.set (target + i) (t.get ⟨source + i, by omega⟩) (by omega)) t)[page] =
        if hin : target ≤ page ∧ page < target + k then t.get ⟨source + (page - target), by omega⟩
        else t[page] := by
    intro k
    induction k with
    | zero =>
      intro _
      have hno : ¬(target ≤ page ∧ page < target + 0) := by omega
      simp only [Nat.fold_zero, dif_neg hno]
    | succ k ih =>
      intro hk
      rw [Nat.fold_succ, Vector.getElem_set _ hp, ih (by omega)]
      by_cases heq : target + k = page
      · subst heq
        have hin : target ≤ target + k ∧ target + k < target + (k + 1) := by omega
        have hsub : target + k - target = k := by omega
        simp only [if_pos, dif_pos hin, hsub]
      · rw [if_neg heq]
        by_cases hold : target ≤ page ∧ page < target + k
        · have hnew : target ≤ page ∧ page < target + (k + 1) := by omega
          rw [dif_pos hold, dif_pos hnew]
        · have hnew : ¬(target ≤ page ∧ page < target + (k + 1)) := by omega
          rw [dif_neg hold, dif_neg hnew]
  exact main count (Nat.le_refl _)

/-- Fills the window of the user segment and copies it to the two kernel segments. -/
def fillWindows (t : Table α) (first : Segment → Nat) (count : Nat) (entry : Nat → α)
    (h : ∀ s, first s + count ≤ pageCount) : Table α :=
  let filled := t.fill (first .kuseg) count entry (h .kuseg)
  let lower := filled.copy (first .kuseg) count (first .kseg0) (h .kuseg) (h .kseg0)
  lower.copy (first .kuseg) count (first .kseg1) (h .kuseg) (h .kseg1)

/-- Sets the windows of all segments to one value. -/
def clearWindows (t : Table α) (first : Segment → Nat) (count : Nat) (value : α)
    (h : ∀ s, first s + count ≤ pageCount) : Table α :=
  Segment.all.foldl (fun t s => t.fill (first s) count (fun _ => value) (h s)) t

end Table

/-- The tables that guest loads and stores go through. -/
structure PageTables where
  read : Table PageEntry
  write : Table (Option PageEntry)

namespace PageTables

theorem ramWindow_le (s : Segment) : s.ramPage + ramPages ≤ pageCount := by cases s <;> decide

theorem biosWindow_le (s : Segment) : s.biosPage + biosPages ≤ pageCount := by cases s <;> decide

/-- Gives the RAM windows their entries for stores. -/
def mapRamWrites (t : PageTables) : PageTables :=
  { t with
    write := t.write.fillWindows Segment.ramPage ramPages (fun i => some (.ram i)) ramWindow_le }

/-- Takes the entries of the RAM windows for stores away. -/
def unmapRamWrites (t : PageTables) : PageTables :=
  { t with write := t.write.clearWindows Segment.ramPage ramPages none ramWindow_le }

/-- The read table: RAM, the parallel window, the hardware window of the user segment and the ROM.
-/
def initialRead : Table PageEntry :=
  let blank : Table PageEntry := Vector.replicate pageCount .sink
  let withRam := blank.fillWindows Segment.ramPage ramPages .ram ramWindow_le
  let withParallel := withRam.fill parallelPage 1 (fun _ => .parallel) (by decide)
  let withHardware :=
    withParallel.fill (Segment.hardwarePage .kuseg) 1 (fun _ => .hardware) (by decide)
  withHardware.fillWindows Segment.biosPage biosPages .rom biosWindow_le

/-- The tables at start, with stores to RAM enabled. -/
def initial : PageTables :=
  let blank : Table (Option PageEntry) := Vector.replicate pageCount none
  mapRamWrites
    { read := initialRead
      write := blank.fill parallelPage 1 (fun _ => some .parallel) (by decide) }

/-- The entry that loads from an address go through. -/
def readEntry (t : PageTables) (a : Address) : PageEntry := t.read.get ⟨a.page, a.page_lt⟩

/-- The entry that stores to an address go through, if there is one. -/
def writeEntry (t : PageTables) (a : Address) : Option PageEntry := t.write.get ⟨a.page, a.page_lt⟩

end PageTables

end ConsoleMemory
