import ConsoleMemory.Proofs.CacheControl
import ConsoleMemory.Proofs.Flat

/-!
# Isolation

While stores to RAM are off no guest store finds a way into RAM. Nothing outside RAM can tell
whether they are off, for what a guest store does there is a function of what is there.
-/

namespace ConsoleMemory

/-- The stores a guest can issue. -/
inductive Step.IsGuestStore {ρ : Type} : Step ρ → Prop where
  | write (w : Width) (a : Address) (v : Value w) : IsGuestStore (.write w a v)
  | writeRelative (base : Address) (disp : Int32) (v : Value .word) :
    IsGuestStore (.writeRelative base disp v)

/-- What a memory holds besides RAM and its switch. -/
structure Outside (ρ : Type) where
  parallel : Image parallelSize
  hardware : Image hardwareSize
  bios : Image biosSize
  registers : Option ρ

namespace Outside

variable {ρ : Type} [RegisterBank ρ]

/-- What a guest store does outside RAM, with the register calls it makes. -/
def store {w : Width} (o : Outside ρ) (a : Address) (v : Value w) :
    Outside ρ × List RegisterCall :=
  match Region.ofAddress a with
  | .parallel => ({ o with parallel := o.parallel.store .stop (a.toNat % parallelSize) v }, [])
  | .scratchpad => ({ o with hardware := o.hardware.store .stop (a.toNat % hardwareSize) v }, [])
  | .io =>
    match o.registers with
    | none => (o, [])
    | some bank => ({ o with registers := some (RegisterBank.write a v bank) }, [.write w a v])
  | .ram | .bios | .cacheControl | .unmapped => (o, [])

/-- A guest store to RAM, or to nothing, does nothing elsewhere. -/
lemma store_eq_self {w : Width} (o : Outside ρ) {a : Address} (v : Value w)
    (h : Region.ofAddress a = .ram ∨ Region.ofAddress a = .unmapped) : o.store a v = (o, []) := by
  unfold store
  rcases h with h | h <;> rw [h]

end Outside

/-- A memory without RAM and its switch. -/
def Memory.outside {ρ : Type} (m : Memory ρ) : Outside ρ :=
  ⟨m.parallel, m.hardware, m.bios, m.registers⟩

/-- What a reply shows outside RAM. -/
def Reply.outside {ρ α : Type} (r : Reply ρ α) : Outside ρ × List RegisterCall :=
  (r.memory.outside, r.trace.calls)

/-! ### One store -/

namespace Memory

variable {ρ : Type} {m : Memory ρ}

lemma not_enabled_of_disabled (h : m.cache = .writeDisabled) : ¬m.cache = .writeEnabled := by
  rw [h]
  decide

lemma storeControl_outside (m : Memory ρ) (value : BitVec 32) :
    (m.storeControl value).outside = (m.outside, []) := by
  unfold storeControl
  dsimp only
  split
  · split <;> simp only [Reply.outside, done, outside, Trace.empty, Trace.notice]
  · split
    · split <;> simp only [Reply.outside, done, outside, Trace.empty, Trace.notice]
    · rfl

lemma storeUnmapped_outside (m : Memory ρ) {w : Width} (a : Address) (v : Value w) :
    (m.storeUnmapped a v).outside = (m.outside, []) := by
  unfold storeUnmapped
  split
  · exact m.storeControl_outside _
  · dsimp only
    split
    · simp only [Reply.outside, done, Trace.calls_append, calls_report, Trace.notice,
        List.append_nil]
    · rfl

variable [RegisterBank ρ]

/-- Whether stores to RAM are on or off, a guest store does the same outside RAM. -/
lemma Coherent.outside_write (h : m.Coherent) {w : Width} (a : Address) (v : Value w) :
    (m.write a v).outside = m.outside.store a v := by
  have hdropped := m.storeUnmapped_outside a v
  rw [h.write_eq, writeByRegion]
  unfold Outside.store
  cases Region.ofAddress a
  case ram =>
    dsimp only
    split
    · rw [Reply.outside, done, calls_report]
      rfl
    · exact hdropped
  case parallel =>
    dsimp only
    rw [Reply.outside, done, calls_report]
    rfl
  case scratchpad => rfl
  case io =>
    have hregisters : m.outside.registers = m.registers := rfl
    dsimp only
    rw [writeRegister, hregisters]
    cases m.registers <;> rfl
  case bios => exact hdropped
  case cacheControl => exact hdropped
  case unmapped => exact hdropped

/-- Outside RAM a displaced store is one to the displaced address, even where it goes straight to
the other end of RAM: nothing else is mapped at the address it would fall through to. -/
lemma Coherent.outside_writeRelative (h : m.Coherent) (base : Address) (disp : Int32)
    (v : Value .word) :
    (m.writeRelative base disp v).outside = m.outside.store (displaced base disp) v := by
  rw [h.writeRelative_eq]
  by_cases hin : (isRamPage base.page = true ∧ InGuards base disp) ∧ m.cache = .writeEnabled
  · have hram : Region.ofAddress (ramAddress base (ramOffset base disp)) = .ram :=
      (Region.ofAddress_eq_ram_iff _).2 (isRamPage_ramAddress _ _)
    have hdisplaced := ofAddress_displaced hin.1.1 hin.1.2
    rw [if_pos hin, h.outside_write, Outside.store_eq_self _ v (.inl hram),
      Outside.store_eq_self _ v hdisplaced]
  · rw [if_neg hin, h.outside_write]

lemma Coherent.ram_write_of_disabled (h : m.Coherent) (hcache : m.cache = .writeDisabled)
    {w : Width} (a : Address) (v : Value w) : (m.write a v).memory.ram = m.ram := by
  by_cases hcontrol : w = .word ∧ a = cacheControlAddress
  · obtain ⟨rfl, rfl⟩ := hcontrol
    rw [h.write_control, h.storeControl_memory]
  · have hdropped : (m.storeUnmapped a v).memory.ram = m.ram := by
      rw [m.storeUnmapped_memory v hcontrol]
    rw [h.write_eq, writeByRegion]
    cases Region.ofAddress a
    case ram =>
      dsimp only
      rw [if_neg (not_enabled_of_disabled hcache)]
      exact hdropped
    case parallel => rfl
    case scratchpad => rfl
    case io =>
      obtain ⟨registers, hm⟩ := m.writeRegister_memory a v
      dsimp only
      rw [hm]
    case bios => exact hdropped
    case cacheControl => exact hdropped
    case unmapped => exact hdropped

/-- While stores to RAM are off a displaced store never goes straight to RAM. -/
lemma Coherent.writeRelative_of_disabled (h : m.Coherent) (hcache : m.cache = .writeDisabled)
    (base : Address) (disp : Int32) (v : Value .word) :
    m.writeRelative base disp v = m.write (displaced base disp) v := by
  rw [h.writeRelative_eq, if_neg (fun hall => not_enabled_of_disabled hcache hall.2)]

/-- A displaced store into RAM or its guards is dropped as a whole while stores to RAM are off. -/
lemma Coherent.writeRelative_memory_of_disabled (h : m.Coherent) (hcache : m.cache = .writeDisabled)
    {base : Address} {disp : Int32} (v : Value .word) (hbase : isRamPage base.page = true)
    (hin : InGuards base disp) : (m.writeRelative base disp v).memory = m := by
  have hregion := ofAddress_displaced hbase hin
  have hcontrol : ¬(Width.word = .word ∧ displaced base disp = cacheControlAddress) := by
    rintro ⟨-, heq⟩
    rw [heq] at hregion
    exact absurd hregion (by decide)
  rw [h.writeRelative_of_disabled hcache, h.write_eq, writeByRegion]
  rcases hregion with hregion | hregion <;> rw [hregion] <;> dsimp only
  · rw [if_neg (not_enabled_of_disabled hcache), m.storeUnmapped_memory v hcontrol]
  · rw [m.storeUnmapped_memory v hcontrol]

lemma Coherent.read_value_congr {n : Memory ρ} (h : m.Coherent) (hn : n.Coherent)
    (hram : n.ram = m.ram) (w : Width) {a : Address} (ha : Region.ofAddress a = .ram) :
    (n.read w a).value = (m.read w a).value := by
  have hpage := (Region.ofAddress_eq_ram_iff a).1 ha
  rw [hn.read_ram w hpage, h.read_ram w hpage, hram]

end Memory

/-! ### Lists of stores -/

/-- Stores that never turn stores to RAM on. -/
def Step.KeepsIsolation {ρ : Type} (store : Step ρ) : Prop :=
  store.storedControl? ≠ some 0x0#32 ∧ store.storedControl? ≠ some 0x1E988#32

namespace Session

variable {ρ : Type} [RegisterBank ρ]

lemma after_cache (steps : List (Step ρ)) {s : Session ρ} (h : s.memory.Coherent) :
    (s.after steps).memory.cache =
      (steps.filterMap Step.storedControl?).foldl CacheState.afterControl s.memory.cache :=
  (congrArg Routing.cache (after_routing steps h)).trans (Routing.foldl_store_cache _ _)

lemma after_control_outside {s : Session ρ} (h : s.memory.Coherent) (v : Value .word) :
    (s.after [.write .word cacheControlAddress v]).memory.outside = s.memory.outside := by
  have hwrite : (s.memory.write cacheControlAddress v).outside = (s.memory.outside, []) := by
    rw [h.write_control, Memory.storeControl_outside]
  exact congrArg Prod.fst hwrite

lemma step_outside {s : Session ρ} (h : s.memory.Coherent) {t : Session ρ} (ht : t.memory.Coherent)
    (heq : s.memory.outside = t.memory.outside) {next : Step ρ} (hnext : next.IsGuestStore) :
    (s.step next).session.memory.outside = (t.step next).session.memory.outside ∧
      (s.step next).trace.calls = (t.step next).trace.calls := by
  cases hnext with
  | write w a v =>
    have hreply : (s.memory.write a v).outside = (t.memory.write a v).outside := by
      rw [h.outside_write, ht.outside_write, heq]
    exact Prod.mk.inj hreply
  | writeRelative base disp v =>
    have hreply : (s.memory.writeRelative base disp v).outside =
        (t.memory.writeRelative base disp v).outside := by
      rw [h.outside_writeRelative, ht.outside_writeRelative, heq]
    exact Prod.mk.inj hreply

/-- By induction on the stores: two runs that start with the same outside keep it the same. -/
theorem after_outside (stores : List (Step ρ)) : ∀ {s t : Session ρ}, s.memory.Coherent →
    t.memory.Coherent → s.memory.outside = t.memory.outside →
    (∀ store ∈ stores, store.IsGuestStore) →
      (s.after stores).memory.outside = (t.after stores).memory.outside ∧
        (s.run stores).flatMap (·.trace.calls) = (t.run stores).flatMap (·.trace.calls) := by
  induction stores with
  | nil =>
    intro s t _ _ heq _
    exact ⟨heq, rfl⟩
  | cons next rest ih =>
    intro s t h ht heq hstores
    obtain ⟨houtside, hcalls⟩ := step_outside h ht heq (hstores next List.mem_cons_self)
    obtain ⟨hafter, hrun⟩ := ih (step_coherent h next) (step_coherent ht next) houtside
      (fun store hstore => hstores store (List.mem_cons_of_mem next hstore))
    refine ⟨hafter, ?_⟩
    rw [run, run, List.flatMap_cons, List.flatMap_cons, hcalls, hrun]

lemma step_ram_of_disabled {s : Session ρ} (h : s.memory.Coherent)
    (hcache : s.memory.cache = .writeDisabled) {next : Step ρ} (hnext : next.IsGuestStore) :
    (s.step next).session.memory.ram = s.memory.ram := by
  cases hnext with
  | write w a v => exact h.ram_write_of_disabled hcache a v
  | writeRelative base disp v =>
    have hram := h.ram_write_of_disabled hcache (Memory.displaced base disp) v
    rw [← h.writeRelative_of_disabled hcache] at hram
    exact hram

lemma step_cache_of_disabled {s : Session ρ} (h : s.memory.Coherent)
    (hcache : s.memory.cache = .writeDisabled) {next : Step ρ} (hkeeps : next.KeepsIsolation) :
    (s.step next).session.memory.cache = .writeDisabled := by
  have hstep := congrArg Routing.cache (step_routing h next)
  cases hstored : next.storedControl? with
  | none =>
    rw [hstored] at hstep
    exact hstep.trans hcache
  | some value =>
    have henables : ¬Enables value := by
      rintro (rfl | rfl)
      · exact hkeeps.1 hstored
      · exact hkeeps.2 hstored
    have hstate : s.memory.routing.cache = .writeDisabled := hcache
    rw [hstored] at hstep
    refine hstep.trans ?_
    dsimp only [Option.elim_some, Routing.store]
    rw [CacheState.afterControl, if_neg henables, hstate, ite_self]

/-- By induction on the stores: RAM stays as it is and stores to it stay off. -/
theorem after_ram_of_disabled (stores : List (Step ρ)) : ∀ {s : Session ρ}, s.memory.Coherent →
    s.memory.cache = .writeDisabled →
    (∀ store ∈ stores, store.IsGuestStore ∧ store.KeepsIsolation) →
      (s.after stores).memory.ram = s.memory.ram := by
  induction stores with
  | nil =>
    intro s _ _ _
    rfl
  | cons next rest ih =>
    intro s h hcache hstores
    obtain ⟨hstore, hkeeps⟩ := hstores next List.mem_cons_self
    have hrest := ih (step_coherent h next) (step_cache_of_disabled h hcache hkeeps)
      (fun store hmem => hstores store (List.mem_cons_of_mem next hmem))
    exact hrest.trans (step_ram_of_disabled h hcache hstore)

/-- While stores to RAM are off, guest stores that do not turn them on leave RAM as it is, and one
displaced into RAM or its guards does nothing at all. Whether they are off has no effect outside
RAM: two memories that are the same there stay the same under all guest stores, with the same
register calls. -/
theorem isolation_confined :
    (∀ (s : Session ρ) (stores : List (Step ρ)), s.memory.Reachable →
      s.memory.isWriteEnabled = false →
      (∀ store ∈ stores, store.IsGuestStore ∧ store.KeepsIsolation) →
        (∀ segment, (s.after stores).memory.ram.view segment = s.memory.ram.view segment) ∧
        ∀ (w : Width) (a : Address), Region.ofAddress a = .ram →
          ((s.after stores).memory.read w a).value = (s.memory.read w a).value) ∧
    (∀ (m : Memory ρ) (base : Address) (disp : Int32) (v : Value .word), m.Reachable →
      m.isWriteEnabled = false → Region.ofAddress base = .ram → Memory.InGuards base disp →
        (m.writeRelative base disp v).memory = m ∧
        (m.writeRelative base disp v).trace.calls = [] ∧
        storedControl? (Memory.displaced base disp) v = none) ∧
    (∀ (s t : Session ρ) (stores : List (Step ρ)), s.memory.Reachable → t.memory.Reachable →
      s.memory.parallel = t.memory.parallel → s.memory.hardware = t.memory.hardware →
      s.memory.bios = t.memory.bios → s.memory.registers = t.memory.registers →
      (∀ store ∈ stores, store.IsGuestStore) →
        (s.after stores).memory.parallel = (t.after stores).memory.parallel ∧
        (s.after stores).memory.hardware = (t.after stores).memory.hardware ∧
        (s.after stores).memory.bios = (t.after stores).memory.bios ∧
        (s.after stores).memory.registers = (t.after stores).memory.registers ∧
        (s.run stores).flatMap (·.trace.calls) = (t.run stores).flatMap (·.trace.calls)) := by
  have hdisabled : ∀ m : Memory ρ, m.isWriteEnabled = false → m.cache = .writeDisabled := by
    intro m hm
    cases hcache : m.cache with
    | writeEnabled => simp [Memory.isWriteEnabled, hcache] at hm
    | writeDisabled => rfl
  refine ⟨?_, ?_, ?_⟩
  · intro s stores hs hoff hstores
    have h : s.memory.Coherent := hs.coherent
    have hram := after_ram_of_disabled stores h (hdisabled _ hoff) hstores
    refine ⟨fun segment => congrArg (Ram.view · segment) hram, ?_⟩
    intro w a ha
    exact h.read_value_congr (after_coherent stores h) hram w ha
  · intro m base disp v hm hoff hbase hin
    have h : m.Coherent := hm.coherent
    have hpage := (Region.ofAddress_eq_ram_iff base).1 hbase
    have hregion := Memory.ofAddress_displaced hpage hin
    have houtside := h.outside_writeRelative base disp v
    rw [Outside.store_eq_self _ v hregion] at houtside
    refine ⟨h.writeRelative_memory_of_disabled (hdisabled m hoff) v hpage hin,
      (Prod.mk.inj houtside).2, if_neg ?_⟩
    rintro ⟨-, heq⟩
    rw [heq] at hregion
    exact absurd hregion (by decide)
  · intro s t stores hs ht hparallel hhardware hbios hregisters hstores
    have heq : s.memory.outside = t.memory.outside := by
      rw [Memory.outside, Memory.outside, hparallel, hhardware, hbios, hregisters]
    obtain ⟨hafter, hcalls⟩ := after_outside stores hs.coherent ht.coherent heq hstores
    obtain ⟨hparallel, hhardware, hbios, hregisters⟩ := Outside.mk.inj hafter
    exact ⟨hparallel, hhardware, hbios, hregisters, hcalls⟩

/-- A machine that stores 0x800 to its cache control register and one that does not: a store to RAM
and one into the guard below it are lost in the first, and the parallel window is the same in
both. -/
theorem isolation_confined_after_isolate :
    let t := (start Empty {} {} false).1
    let s := t.after [.write .word cacheControlAddress 0x800#32]
    let stores : List (Step Empty) := [.write .half 0x1F000003#32 0xBEEF#16,
      .write .word 0x801FFFFE#32 0x11223344#32, .writeRelative 0x80000000#32 (-2) 7#32]
    s.memory.Reachable ∧ t.memory.Reachable ∧ s.memory.isWriteEnabled = false ∧
      (∀ segment, (s.after stores).memory.ram.view segment = s.memory.ram.view segment) ∧
      (s.memory.writeRelative 0x80000000#32 (-2) 7#32).memory = s.memory ∧
      (s.after stores).memory.parallel = (t.after stores).memory.parallel := by
  intro t s stores
  have ht : t.memory.Reachable := ⟨{}, {}, false, [], rfl⟩
  have hs : s.memory.Reachable :=
    ⟨{}, {}, false, [.write .word cacheControlAddress 0x800#32], rfl⟩
  have hcache : s.memory.cache = .writeDisabled :=
    (after_cache _ ht.coherent).trans (by decide)
  have hoff : s.memory.isWriteEnabled = false := by
    rw [Memory.isWriteEnabled, hcache]
    decide
  have houtside : s.memory.outside = t.memory.outside :=
    after_control_outside ht.coherent _
  obtain ⟨hparallel, hhardware, hbios, hregisters⟩ := Outside.mk.inj houtside
  have hstores : ∀ store ∈ stores, store.IsGuestStore ∧ store.KeepsIsolation := by
    intro store hstore
    simp only [stores, List.mem_cons, List.not_mem_nil, or_false] at hstore
    rcases hstore with rfl | rfl | rfl
    · exact ⟨.write _ _ _, by decide, by decide⟩
    · exact ⟨.write _ _ _, by decide, by decide⟩
    · exact ⟨.writeRelative _ _ _, by decide, by decide⟩
  obtain ⟨hram, hrelative, hconfined⟩ := isolation_confined (ρ := Empty)
  exact ⟨hs, ht, hoff, (hram s stores hs hoff hstores).1,
    (hrelative s.memory _ _ 7#32 hs hoff (by decide) (by decide)).1,
    (hconfined s t stores hs ht hparallel hhardware hbios hregisters
      fun store hstore => (hstores store hstore).1).1⟩

end Session

end ConsoleMemory
