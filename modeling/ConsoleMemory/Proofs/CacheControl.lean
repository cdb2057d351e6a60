import ConsoleMemory.Proofs.Coherence
import Mathlib.Data.List.Basic
import Mathlib.Data.List.Induction

/-!
# Cache control over a session

The words stored to the cache control register in the course of a session tell everything about its
routing: the last of them is what the register holds, the last known one says whether stores reach
RAM, and the tables hold what that cache state asks for.
-/

namespace ConsoleMemory

namespace CacheState

/-- By induction on the stores from the last one backwards: the last known value decides. -/
lemma foldl_afterControl (stores : List (BitVec 32)) :
    let known := stores.filter fun value => value ∈ [0x800#32, 0x804#32, 0x0#32, 0x1E988#32]
    stores.foldl afterControl .writeEnabled = .writeDisabled ↔
      known.getLast? = some 0x800#32 ∨ known.getLast? = some 0x804#32 := by
  induction stores using List.reverseRecOn with
  | nil => simp
  | append_singleton earlier last ih =>
    dsimp only at ih ⊢
    rw [List.foldl_concat, List.filter_append, List.filter_singleton]
    by_cases hknown : last ∈ [0x800#32, 0x804#32, 0x0#32, 0x1E988#32]
    · rw [decide_eq_true hknown, cond_true, List.getLast?_concat]
      simp only [List.mem_cons, List.not_mem_nil, or_false] at hknown
      rcases hknown with rfl | rfl | rfl | rfl <;> simp [afterControl, Disables, Enables]
    · have hkept : (earlier.foldl afterControl .writeEnabled).afterControl last =
          earlier.foldl afterControl .writeEnabled := by
        simp only [List.mem_cons, List.not_mem_nil, or_false, not_or] at hknown
        simp [afterControl, Disables, Enables, hknown]
      rw [decide_eq_false hknown, cond_false, List.append_nil, hkept, ih]

end CacheState

namespace Routing

lemma store_cache (r : Routing) (value : BitVec 32) :
    (r.store value).cache = r.cache.afterControl value := rfl

lemma store_control (r : Routing) (value : BitVec 32) : (r.store value).control = value := rfl

lemma foldl_store_cache (stores : List (BitVec 32)) : ∀ r : Routing,
    (stores.foldl store r).cache = stores.foldl CacheState.afterControl r.cache := by
  induction stores with
  | nil =>
    intro r
    rfl
  | cons value rest ih =>
    intro r
    rw [List.foldl_cons, List.foldl_cons, ih, store_cache]

lemma foldl_store_control (stores : List (BitVec 32)) (r : Routing) :
    (stores.foldl store r).control = stores.getLast?.getD r.control := by
  induction stores using List.reverseRecOn with
  | nil => rfl
  | append_singleton earlier last _ =>
    rw [List.foldl_concat, List.getLast?_concat, store_control, Option.getD_some]

end Routing

namespace PageTables

lemma write_ofCache_eq (cache : CacheState) (page : Fin pageCount) :
    (ofCache cache).write.get page =
      if page.val = parallelPage ∨ (isRamPage page ∧ cache = .writeEnabled) then
        some ((ofCache cache).read.get page)
      else none := by
  have hread : (ofCache cache).read.get page = .ofPage page := getElem_initialRead page page.isLt
  rw [hread, Table.get_eq_getElem, getElem_ofCache]
  rfl

lemma isSome_write_ofCache (cache : CacheState) {page : Fin pageCount} (h : isRamPage page = true) :
    ((ofCache cache).write.get page).isSome = decide (cache = .writeEnabled) := by
  rw [Table.get_eq_getElem, getElem_ofCache, writeEntryOf_of_isRamPage cache h]
  by_cases hcache : cache = .writeEnabled
  · rw [if_pos hcache, decide_eq_true hcache]
    rfl
  · rw [if_neg hcache, decide_eq_false hcache]
    rfl

/-- Stores lead to RAM and to the parallel window and nowhere else. -/
lemma buffer_of_write_ofCache {cache : CacheState} {page : Fin pageCount} {entry : PageEntry}
    (h : (ofCache cache).write.get page = some entry) :
    entry.buffer = .ram ∨ entry.buffer = .parallel := by
  rw [Table.get_eq_getElem, getElem_ofCache, writeEntryOf] at h
  split at h
  case isTrue hpage =>
    obtain rfl := Option.some.inj h
    rcases hpage with hparallel | ⟨hram, -⟩
    · rw [hparallel, PageEntry.ofPage_parallelPage]
      exact .inr rfl
    · rw [PageEntry.ofPage_of_isRamPage hram]
      exact .inl rfl
  case isFalse => exact absurd h (by simp)

/-- The one entry for the hardware window is of a page that is decoded before the tables. -/
lemma buffer_readEntry_ofCache (cache : CacheState) {a : Address}
    (h : isHardwarePage a.page = false) : ((ofCache cache).readEntry a).buffer ≠ .hardware := by
  have huser : a.page ≠ Segment.hardwarePage .kuseg := by
    intro heq
    rw [heq] at h
    exact absurd h (by decide)
  rw [readEntry_ofCache, PageEntry.ofPage, if_neg huser]
  split
  · exact Buffer.noConfusion
  · split
    · exact Buffer.noConfusion
    · split <;> exact Buffer.noConfusion

end PageTables

namespace Memory

variable {ρ : Type}

lemma notices_report (m : Memory ρ) (a : Address) (words : Nat) :
    (m.report a words).notices = [] := by
  unfold report
  split <;> rfl

lemma readOnlyWrite_not_mem_storeUnmapped (m : Memory ρ) {w : Width} (a b : Address)
    (v : Value w) : Notice.readOnlyWrite b ∉ (m.storeUnmapped a v).trace.notices := by
  unfold storeUnmapped storeControl
  dsimp only
  split
  · split
    · split <;> simp [done, Trace.notice, Trace.empty]
    · split
      · split <;> simp [done, Trace.notice, Trace.empty]
      · simp [done, Trace.notice]
  · split <;> simp [done, Trace.notice, notices_report]

variable [RegisterBank ρ]

/-- A memory whose routing is the one that words stored to the cache control register call for. -/
structure FollowsControl (m : Memory ρ) (stores : List (BitVec 32)) : Prop where
  control : m.control = stores.getLast?.getD 0
  cache :
    let known := stores.filter fun value => value ∈ [0x800#32, 0x804#32, 0x0#32, 0x1E988#32]
    m.cache = .writeDisabled ↔
      known.getLast? = some 0x800#32 ∨ known.getLast? = some 0x804#32
  read : m.tables.read = PageTables.initial.read
  write : ∀ page : Fin pageCount,
    m.tables.write.get page =
      if page.val = parallelPage ∨ (isRamPage page ∧ m.cache = .writeEnabled) then
        some (m.tables.read.get page)
      else none
  mirrors : (∀ page : Fin pageCount, isRamPage page = true → m.tables.write.get page ≠ none) ∨
    ∀ page : Fin pageCount, isRamPage page = true → m.tables.write.get page = none
  writeBuffer : ∀ (page : Fin pageCount) (entry : PageEntry),
    m.tables.write.get page = some entry → entry.buffer = .ram ∨ entry.buffer = .parallel
  readBuffer : ∀ a : Address, isHardwarePage a.page = false →
    (m.tables.readEntry a).buffer ≠ .hardware
  readOnly : ∀ {w : Width} (a b : Address) (v : Value w),
    Notice.readOnlyWrite b ∉ (m.write a v).trace.notices
  sink : m.sink = Image.zero _

lemma readOnlyWrite_not_mem_writeRegister (m : Memory ρ) {w : Width} (a b : Address)
    (v : Value w) : Notice.readOnlyWrite b ∉ (m.writeRegister a v).trace.notices := by
  unfold writeRegister
  split <;> simp [done, Trace.notice, Trace.call]

lemma Coherent.readOnlyWrite_not_mem {m : Memory ρ} (h : m.Coherent) {w : Width} (a b : Address)
    (v : Value w) : Notice.readOnlyWrite b ∉ (m.write a v).trace.notices := by
  have hdropped := m.readOnlyWrite_not_mem_storeUnmapped a b v
  rw [h.write_eq, writeByRegion]
  cases Region.ofAddress a
  case ram =>
    dsimp only
    split
    · simp [done, notices_report]
    · exact hdropped
  case parallel => simp [done, notices_report]
  case scratchpad => simp [done, Trace.empty]
  case io => exact m.readOnlyWrite_not_mem_writeRegister a b v
  case bios => exact hdropped
  case cacheControl => exact hdropped
  case unmapped => exact hdropped

/-- For a coherent memory the control value and the cache state say the rest. -/
lemma Coherent.followsControl {m : Memory ρ} (h : m.Coherent) {stores : List (BitVec 32)}
    (hcontrol : m.control = stores.getLast?.getD 0)
    (hcache : m.cache = stores.foldl CacheState.afterControl .writeEnabled) :
    m.FollowsControl stores where
  control := hcontrol
  cache := by
    rw [hcache]
    exact CacheState.foldl_afterControl stores
  read := by
    rw [h.tables, PageTables.initial_eq]
    rfl
  write := by
    intro page
    rw [h.tables]
    exact PageTables.write_ofCache_eq _ page
  mirrors := by
    rw [h.tables]
    cases hstate : m.cache with
    | writeEnabled =>
      left
      intro page hram
      have hsome := PageTables.isSome_write_ofCache .writeEnabled hram
      exact Option.isSome_iff_ne_none.1 hsome
    | writeDisabled =>
      right
      intro page hram
      have hnone := PageTables.isSome_write_ofCache .writeDisabled hram
      exact Option.isNone_iff_eq_none.1 (Option.isSome_eq_false_iff.1 hnone)
  writeBuffer := by
    rw [h.tables]
    intro page entry hentry
    exact PageTables.buffer_of_write_ofCache hentry
  readBuffer := by
    rw [h.tables]
    intro a ha
    exact PageTables.buffer_readEntry_ofCache _ ha
  readOnly := by
    intro w a b v
    exact h.readOnlyWrite_not_mem a b v
  sink := h.sink

end Memory

namespace Session

variable {ρ : Type} [RegisterBank ρ]

/-- After any session the routing is that of the words stored to the cache control register, and a
step that stores none there leaves it alone. -/
theorem after_followsControl (settings : Settings) (files : Files) (canMap : Bool)
    (steps : List (Step ρ)) :
    let s := (start ρ settings files canMap).1.after steps
    s.memory.FollowsControl (steps.filterMap Step.storedControl?) ∧
      ∀ next : Step ρ, next.storedControl? = none →
        (s.step next).session.memory.control = s.memory.control ∧
          (s.step next).session.memory.cache = s.memory.cache ∧
          (s.step next).session.memory.tables = s.memory.tables := by
  intro s
  have hstart : (start ρ settings files canMap).1.memory.Coherent :=
    start_coherent settings files canMap
  have hcoherent : s.memory.Coherent := after_coherent steps hstart
  have hrouting : s.memory.routing =
      (steps.filterMap Step.storedControl?).foldl Routing.store
        (.fresh (start ρ settings files canMap).1.memory.ram.name) := by
    rw [after_routing steps hstart, start_routing]
  have hcontrol : s.memory.control = (steps.filterMap Step.storedControl?).getLast?.getD 0 :=
    (congrArg Routing.control hrouting).trans (Routing.foldl_store_control _ _)
  have hcache : s.memory.cache =
      (steps.filterMap Step.storedControl?).foldl CacheState.afterControl .writeEnabled :=
    (congrArg Routing.cache hrouting).trans (Routing.foldl_store_cache _ _)
  refine ⟨hcoherent.followsControl hcontrol hcache, ?_⟩
  intro next hnone
  have hstep := step_routing hcoherent next
  rw [hnone, Option.elim_none] at hstep
  obtain ⟨htables, hcache, hcontrol, -⟩ := Routing.mk.inj hstep
  exact ⟨hcontrol, hcache, htables⟩

end Session

end ConsoleMemory
