import ConsoleMemory.Session
import ConsoleMemory.Proofs.Effect

/-!
# Coherent sessions

The tables, the cache state, the control value, the sink and the way RAM is kept make up the routing
of a memory. Only a word stored to the cache control register changes it, and such a store keeps the
tables and the cache state together. So the routing after a session is told by the words that were
stored there, and every memory that a session leads to is coherent.
-/

namespace ConsoleMemory

/-- The values that turn stores to RAM off. -/
def Disables (value : BitVec 32) : Prop := value = 0x800#32 ∨ value = 0x804#32

/-- The values that turn stores to RAM on. -/
def Enables (value : BitVec 32) : Prop := value = 0x0#32 ∨ value = 0x1E988#32

instance (value : BitVec 32) : Decidable (Disables value) := inferInstanceAs (Decidable (_ ∨ _))

instance (value : BitVec 32) : Decidable (Enables value) := inferInstanceAs (Decidable (_ ∨ _))

/-- The cache state after a value has been stored to the cache control register. -/
def CacheState.afterControl (cache : CacheState) (value : BitVec 32) : CacheState :=
  if Disables value then .writeDisabled else if Enables value then .writeEnabled else cache

namespace Memory

lemma mem_isolateValues (value : BitVec 32) : value ∈ isolateValues ↔ Disables value := by
  simp only [isolateValues, List.mem_cons, List.not_mem_nil, or_false, Disables]

lemma mem_releaseValues (value : BitVec 32) : value ∈ releaseValues ↔ Enables value := by
  simp only [releaseValues, List.mem_cons, List.not_mem_nil, or_false, Enables]

end Memory

/-- The part of a memory that decides where guest accesses go. -/
structure Routing where
  tables : PageTables
  cache : CacheState
  control : BitVec 32
  sink : Image pageSize
  /-- The name of the way RAM is kept. -/
  way : String

namespace Routing

/-- The routing of a fresh memory. -/
def fresh (way : String) : Routing :=
  ⟨.ofCache .writeEnabled, .writeEnabled, 0, Image.zero _, way⟩

/-- The routing after a value has been stored to the cache control register. -/
def store (r : Routing) (value : BitVec 32) : Routing :=
  { r with
    tables := .ofCache (r.cache.afterControl value)
    cache := r.cache.afterControl value
    control := value }

end Routing

/-- What a store puts in the cache control register, if that is where it goes. -/
def storedControl? {w : Width} (a : Address) (v : Value w) : Option (BitVec 32) :=
  if w = .word ∧ a = 0xFFFE0130#32 then some (BitVec.ofNat 32 v.toNat) else none

/-- What a step puts in the cache control register. Only the two guest stores can reach it. -/
def Step.storedControl? {ρ : Type} : Step ρ → Option (BitVec 32)
  | .write _ a v => ConsoleMemory.storedControl? a v
  | .writeRelative base disp v => ConsoleMemory.storedControl? (base + disp.toBitVec) v
  | _ => none

/-! ### One store -/

namespace Memory

variable {ρ : Type} {m : Memory ρ}

/-- The routing of a memory. -/
def routing (m : Memory ρ) : Routing := ⟨m.tables, m.cache, m.control, m.sink, m.ram.name⟩

lemma Coherent.of_routing {n : Memory ρ} (h : m.Coherent) (hr : n.routing = m.routing) :
    n.Coherent := by
  obtain ⟨htables, hcache, -, hsink, -⟩ := Routing.mk.inj hr
  exact ⟨by rw [htables, hcache, h.tables], by rw [hsink, h.sink]⟩

lemma Coherent.of_store {n : Memory ρ} (h : m.Coherent) (value : BitVec 32)
    (hr : n.routing = m.routing.store value) : n.Coherent := by
  obtain ⟨htables, hcache, -, hsink, -⟩ := Routing.mk.inj hr
  refine ⟨?_, hsink.trans h.sink⟩
  rw [htables, hcache]

lemma routing_withRam {n : Memory ρ} (ram : Ram) (hname : ram.name = m.ram.name)
    (h : n.routing = { m with ram }.routing) : n.routing = m.routing := by
  rw [h]
  exact congrArg (Routing.mk m.tables m.cache m.control m.sink) hname

/-- A control store to a coherent memory, in one equation. -/
lemma Coherent.storeControl_memory (h : m.Coherent) (value : BitVec 32) :
    (m.storeControl value).memory =
      { m with
        control := value
        cache := m.cache.afterControl value
        tables := .ofCache (m.cache.afterControl value) } := by
  have htables := h.tables
  unfold storeControl CacheState.afterControl
  simp only [mem_isolateValues, mem_releaseValues]
  by_cases hdisables : Disables value
  · rw [if_pos hdisables, if_pos hdisables]
    cases hcache : m.cache with
    | writeEnabled =>
      simp only [done, htables, hcache, PageTables.unmapRamWrites_ofCache]
    | writeDisabled =>
      simp only [done]
      rw [← hcache, ← htables]
  · rw [if_neg hdisables, if_neg hdisables]
    by_cases henables : Enables value
    · rw [if_pos henables, if_pos henables]
      cases hcache : m.cache with
      | writeEnabled =>
        simp only [done]
        rw [← hcache, ← htables]
      | writeDisabled =>
        simp only [done, htables, hcache, PageTables.mapRamWrites_ofCache]
    · rw [if_neg henables, if_neg henables]
      simp only [done]
      rw [← htables]

variable [RegisterBank ρ]

/-- What a guest store does to the routing. -/
lemma Coherent.routing_write (h : m.Coherent) {w : Width} (a : Address) (v : Value w) :
    (m.write a v).memory.routing = (storedControl? a v).elim m.routing m.routing.store := by
  unfold storedControl?
  by_cases hcontrol : w = .word ∧ a = cacheControlAddress
  · obtain ⟨rfl, rfl⟩ := hcontrol
    rw [if_pos ⟨rfl, rfl⟩, h.write_control, h.storeControl_memory]
    rfl
  · obtain ⟨ram, parallel, hardware, registers, hname, hm⟩ := h.write_memory v hcontrol
    rw [if_neg hcontrol]
    have hr := congrArg routing hm
    exact routing_withRam ram hname hr

/-- A displaced store that goes straight to RAM is not one to the register, for what its address
decodes to is RAM or nothing. -/
lemma Coherent.routing_writeRelative (h : m.Coherent) (base : Address) (disp : Int32)
    (v : Value .word) :
    (m.writeRelative base disp v).memory.routing =
      (storedControl? (displaced base disp) v).elim m.routing m.routing.store := by
  rw [h.writeRelative_eq]
  by_cases hin : (isRamPage base.page = true ∧ InGuards base disp) ∧ m.cache = .writeEnabled
  · have hram : ramAddress base (ramOffset base disp) ≠ cacheControlAddress := by
      intro heq
      have hpage := isRamPage_ramAddress base (ramOffset base disp)
      rw [heq] at hpage
      exact absurd hpage (by decide)
    have haddr : displaced base disp ≠ cacheControlAddress := by
      intro heq
      have hregion := ofAddress_displaced hin.1.1 hin.1.2
      rw [heq] at hregion
      exact absurd hregion (by decide)
    rw [if_pos hin, h.routing_write, storedControl?, storedControl?, if_neg (fun hw => hram hw.2),
      if_neg (fun hw => haddr hw.2)]
  · rw [if_neg hin, h.routing_write]

end Memory

/-! ### Sessions -/

/-- The steps other than the stores of a value, a reset and the load of an image. -/
def Step.IsQuiet {ρ : Type} : Step ρ → Prop
  | .write _ _ _ | .writeRelative _ _ _ | .writeDirect _ _ _ _ | .reset | .loadImage _ => False
  | _ => True

lemma Step.IsQuiet.storedControl?_eq_none {ρ : Type} {next : Step ρ} (h : next.IsQuiet) :
    next.storedControl? = none := by
  cases next <;> first | rfl | exact h.elim

namespace Session

variable {ρ : Type}

lemma start_routing (settings : Settings) (files : Files) (canMap : Bool) :
    (start ρ settings files canMap).1.memory.routing =
      .fresh (start ρ settings files canMap).1.memory.ram.name := by
  unfold Routing.fresh
  rw [← PageTables.initial_eq]
  rfl

lemma start_coherent (settings : Settings) (files : Files) (canMap : Bool) :
    (start ρ settings files canMap).1.memory.Coherent :=
  ⟨PageTables.initial_eq, rfl⟩

variable [RegisterBank ρ]

/-- A quiet step changes at most RAM, the registers and whether someone listens. -/
lemma step_quiet (s : Session ρ) {next : Step ρ} (h : next.IsQuiet) :
    ∃ ram registers listening, ram.name = s.memory.ram.name ∧
      (s.step next).session.memory = { s.memory with ram, registers, listening } := by
  cases next with
  | read w a =>
    obtain ⟨registers, hm⟩ := s.memory.read_memory w a
    exact ⟨s.memory.ram, registers, s.memory.listening, rfl, hm⟩
  | readRelative base disp =>
    obtain ⟨registers, hm⟩ := s.memory.readRelative_memory base disp
    exact ⟨s.memory.ram, registers, s.memory.listening, rfl, hm⟩
  | readDirect order w a =>
    obtain ⟨registers, hm⟩ := s.memory.readDirect_memory order w a
    exact ⟨s.memory.ram, registers, s.memory.listening, rfl, hm⟩
  | writeSlice a data =>
    obtain ⟨ram, hname, hm⟩ := s.memory.writeSlice_memory a data
    exact ⟨ram, s.memory.registers, s.memory.listening, hname, hm⟩
  | patchRam start data =>
    obtain ⟨ram, hname, hm⟩ := s.memory.patchRam_memory start data
    exact ⟨ram, s.memory.registers, s.memory.listening, hname, hm⟩
  | attachRegisters bank => exact ⟨s.memory.ram, some bank, s.memory.listening, rfl, rfl⟩
  | attachListener => exact ⟨s.memory.ram, s.memory.registers, true, rfl, rfl⟩
  | configure settings => exact ⟨s.memory.ram, s.memory.registers, s.memory.listening, rfl, rfl⟩
  | provide files => exact ⟨s.memory.ram, s.memory.registers, s.memory.listening, rfl, rfl⟩
  | _ => exact h.elim

/-- What a step does to the routing is told by what it puts in the register. -/
theorem step_routing {s : Session ρ} (h : s.memory.Coherent) (next : Step ρ) :
    (s.step next).session.memory.routing =
      next.storedControl?.elim s.memory.routing s.memory.routing.store := by
  by_cases hquiet : next.IsQuiet
  · obtain ⟨ram, registers, listening, hname, hm⟩ := s.step_quiet hquiet
    have hr := congrArg Memory.routing hm
    rw [hquiet.storedControl?_eq_none]
    exact Memory.routing_withRam ram hname hr
  · cases next with
    | write w a v => exact h.routing_write a v
    | writeRelative base disp v => exact h.routing_writeRelative base disp v
    | writeDirect order w a v =>
      obtain ⟨parallel, hardware, registers, hm⟩ := s.memory.writeDirect_memory order a v
      have hr := congrArg Memory.routing hm
      exact hr
    | reset =>
      obtain ⟨ram, bios, hname, hm⟩ :=
        s.memory.reset_memory s.settings (s.files.list s.settings.biosDir)
      have hr := congrArg Memory.routing hm
      exact Memory.routing_withRam ram hname hr
    | loadImage path =>
      obtain ⟨bios, hm⟩ := s.memory.loadImage_memory path (s.files.openPath path)
      have hr := congrArg Memory.routing hm
      exact hr
    | _ => exact absurd trivial hquiet

lemma step_coherent {s : Session ρ} (h : s.memory.Coherent) (next : Step ρ) :
    (s.step next).session.memory.Coherent := by
  have hstep := step_routing h next
  cases hstored : next.storedControl? with
  | none =>
    rw [hstored] at hstep
    exact h.of_routing hstep
  | some value =>
    rw [hstored] at hstep
    exact h.of_store value hstep

/-- No step changes the way RAM is kept. -/
lemma step_name {s : Session ρ} (h : s.memory.Coherent) (next : Step ρ) :
    (s.step next).session.memory.ram.name = s.memory.ram.name := by
  have hstep := congrArg Routing.way (step_routing h next)
  cases hstored : next.storedControl? with
  | none =>
    rw [hstored] at hstep
    exact hstep
  | some value =>
    rw [hstored] at hstep
    exact hstep

/-- The routing after steps is told by the values they put in the register, in order. -/
theorem after_routing (steps : List (Step ρ)) : ∀ {s : Session ρ}, s.memory.Coherent →
    (s.after steps).memory.routing =
      (steps.filterMap Step.storedControl?).foldl Routing.store s.memory.routing := by
  induction steps with
  | nil =>
    intro s _
    rfl
  | cons next rest ih =>
    intro s h
    have hrest := ih (step_coherent h next)
    have hstep := step_routing h next
    rw [after, List.foldl_cons, ← after, hrest, hstep]
    cases hstored : next.storedControl? with
    | none => rw [List.filterMap_cons_none hstored, Option.elim_none]
    | some value => rw [List.filterMap_cons_some hstored, Option.elim_some, List.foldl_cons]

lemma after_coherent (steps : List (Step ρ)) : ∀ {s : Session ρ}, s.memory.Coherent →
    (s.after steps).memory.Coherent := by
  induction steps with
  | nil =>
    intro s h
    exact h
  | cons next rest ih =>
    intro s h
    exact ih (step_coherent h next)

end Session

/-- Every memory that a session leads to is coherent. -/
theorem Memory.Reachable.coherent {ρ : Type} [RegisterBank ρ] {m : Memory ρ} (h : m.Reachable) :
    m.Coherent := by
  obtain ⟨settings, files, canMap, steps, rfl⟩ := h
  exact Session.after_coherent steps (Session.start_coherent settings files canMap)

end ConsoleMemory
