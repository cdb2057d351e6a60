import ConsoleMemory.Proofs.DirectAccess
import ConsoleMemory.Proofs.Isolation
import ConsoleMemory.Proofs.RegisterLanes

/-!
# Registers through a memory

A step of a session makes the register call that its address asks for, or none. So what a session
gets from the registers, and what becomes of them, is told by these calls alone, whatever is done to
the rest of the memory in between.
-/

namespace ConsoleMemory

open Memory (displaced)

/-- An address of a register that the direct decoder knows. -/
def Address.IsDirectRegister (a : Address) : Prop :=
  a.page = Segment.hardwarePage .kuseg ∧ Memory.directHardwareLimit ≤ a.offset

instance (a : Address) : Decidable a.IsDirectRegister := inferInstanceAs (Decidable (_ ∧ _))

lemma Address.offset_lt_of_not_isDirectRegister {a : Address} (h : ¬a.IsDirectRegister)
    (hpage : a.page = Segment.hardwarePage .kuseg) : a.offset < Memory.directHardwareLimit :=
  Nat.not_le.1 fun hhigh => h ⟨hpage, hhigh⟩

namespace Step

variable {ρ : Type}

/-- The register call of a step. -/
def registerCall? : Step ρ → Option RegisterCall
  | .read w a => if Region.ofAddress a = .io then some (.read w a) else none
  | .write w a v => if Region.ofAddress a = .io then some (.write w a v) else none
  | .readRelative base disp =>
    if Region.ofAddress (displaced base disp) = .io then some (.read .word (displaced base disp))
    else none
  | .writeRelative base disp v =>
    if Region.ofAddress (displaced base disp) = .io then
      some (.write .word (displaced base disp) v)
    else none
  | .readDirect _ w a => if a.IsDirectRegister then some (.read w a) else none
  | .writeDirect _ w a v => if a.IsDirectRegister then some (.write w a v) else none
  | _ => none

/-- The steps that do not put other registers in place. -/
def KeepsRegisters : Step ρ → Prop
  | .attachRegisters _ => False
  | _ => True

instance : (next : Step ρ) → Decidable next.KeepsRegisters
  | .attachRegisters _ => inferInstanceAs (Decidable False)
  | .read _ _ | .write _ _ _ | .readRelative _ _ | .writeRelative _ _ _ | .readDirect _ _ _
  | .writeDirect _ _ _ _ | .writeSlice _ _ | .patchRam _ _ | .attachListener | .configure _
  | .provide _ | .reset | .loadImage _ => inferInstanceAs (Decidable True)

end Step

namespace Memory

variable {ρ : Type} [RegisterBank ρ] {m : Memory ρ}

/-- From a memory to one after it the registers have got this call, or none. -/
def Serves (m : Memory ρ) (call? : Option RegisterCall) (answer : Answer) (after : Memory ρ) :
    Prop :=
  match call? with
  | none => after.registers = m.registers
  | some call => ∀ bank, m.registers = some bank →
      answer = (call.perform bank).1 ∧ after.registers = some (call.perform bank).2

lemma serves_readRegister (m : Memory ρ) (w : Width) (a : Address) :
    m.Serves (some (.read w a)) (.value w (m.readRegister w a).value)
      (m.readRegister w a).memory := by
  intro bank hbank
  rw [readRegister, hbank]
  exact ⟨rfl, rfl⟩

lemma serves_writeRegister (m : Memory ρ) {w : Width} (a : Address) (v : Value w) :
    m.Serves (some (.write w a v)) .nothing (m.writeRegister a v).memory := by
  intro bank hbank
  rw [writeRegister, hbank]
  exact ⟨rfl, rfl⟩

lemma Coherent.serves_read (h : m.Coherent) (w : Width) (a : Address) :
    m.Serves (if Region.ofAddress a = .io then some (.read w a) else none)
      (.value w (m.read w a).value) (m.read w a).memory := by
  rw [h.read_eq, readByRegion]
  cases hregion : Region.ofAddress a
  case io => exact m.serves_readRegister w a
  all_goals exact rfl

lemma Coherent.serves_readRelative (h : m.Coherent) (base : Address) (disp : Int32) :
    m.Serves
      (if Region.ofAddress (displaced base disp) = .io then
        some (.read .word (displaced base disp)) else none)
      (.value .word (m.readRelative base disp).value) (m.readRelative base disp).memory := by
  rw [h.readRelative_eq]
  by_cases hin : isRamPage base.page = true ∧ InGuards base disp
  · -- past the end of RAM its guards show what is mapped nowhere else, and never a register
    have hdirect : ¬Region.ofAddress (displaced base disp) = .io := by
      rcases ofAddress_displaced hin.1 hin.2 with hregion | hregion <;>
        rw [hregion] <;> decide
    have hread := h.read_ram .word (isRamPage_ramAddress base (ramOffset base disp))
    rw [if_pos hin, if_neg hdirect, hread]
    exact rfl
  · rw [if_neg hin]
    exact h.serves_read .word (displaced base disp)

/-- A store that does outside RAM what its address asks for. -/
lemma serves_of_outside {w : Width} {a : Address} {v : Value w} {r : Reply ρ Unit}
    (h : r.outside = m.outside.store a v) :
    m.Serves (if Region.ofAddress a = .io then some (.write w a v) else none) .nothing
      r.memory := by
  have hregisters : r.memory.registers = (m.outside.store a v).1.registers :=
    congrArg (fun o => o.1.registers) h
  by_cases hio : Region.ofAddress a = .io
  · rw [if_pos hio]
    intro bank hbank
    have hstore : (m.outside.store a v).1.registers = some (RegisterBank.write a v bank) := by
      simp only [Outside.store, hio, outside, hbank]
    exact ⟨rfl, hregisters.trans hstore⟩
  · rw [if_neg hio]
    have hstore : (m.outside.store a v).1.registers = m.registers := by
      unfold Outside.store
      cases hregion : Region.ofAddress a
      case io => exact absurd hregion hio
      all_goals exact rfl
    exact hregisters.trans hstore

lemma serves_readDirect (m : Memory ρ) (order : ByteOrder) (w : Width) (a : Address) :
    m.Serves (if a.IsDirectRegister then some (.read w a) else none)
      (.value w (m.readDirect order w a).value) (m.readDirect order w a).memory := by
  have hread := m.readDirect?_eq order w a
  unfold readDirect? at hread
  by_cases hdirect : a.IsDirectRegister
  · rw [if_pos hdirect.1, if_neg (Nat.not_lt.2 hdirect.2)] at hread
    rw [if_pos hdirect, ← Option.some.inj hread]
    exact m.serves_readRegister w a
  · rw [if_neg hdirect]
    by_cases hpage : a.page = Segment.hardwarePage .kuseg
    · rw [if_pos hpage, if_pos (Address.offset_lt_of_not_isDirectRegister hdirect hpage)] at hread
      exact congrArg Memory.registers (m.memory_of_loaded hread)
    · rw [if_neg hpage] at hread
      split at hread <;> exact congrArg Memory.registers (m.memory_of_loaded hread)

lemma serves_writeDirect (m : Memory ρ) (order : ByteOrder) {w : Width} (a : Address)
    (v : Value w) :
    m.Serves (if a.IsDirectRegister then some (.write w a v) else none) .nothing
      (m.writeDirect order a v).memory := by
  have hwrite := m.writeDirect?_eq order a v
  unfold writeDirect? at hwrite
  by_cases hdirect : a.IsDirectRegister
  · rw [if_pos hdirect.1, if_neg (Nat.not_lt.2 hdirect.2)] at hwrite
    rw [if_pos hdirect, ← Option.some.inj hwrite]
    exact m.serves_writeRegister a v
  · rw [if_neg hdirect]
    by_cases hpage : a.page = Segment.hardwarePage .kuseg
    · rw [if_pos hpage, if_pos (Address.offset_lt_of_not_isDirectRegister hdirect hpage)] at hwrite
      obtain hm | ⟨hardware, hm⟩ := m.memory_of_storeWindow? hwrite
      · have hregisters := congrArg Memory.registers hm
        exact hregisters
      · have hregisters := congrArg Memory.registers hm
        exact hregisters
    · rw [if_neg hpage] at hwrite
      obtain hm | ⟨parallel, hm⟩ := m.memory_of_storeWindow? hwrite
      · have hregisters := congrArg Memory.registers hm
        exact hregisters
      · have hregisters := congrArg Memory.registers hm
        exact hregisters

end Memory

namespace Session

variable {ρ : Type}

section Bank

variable [RegisterBank ρ]

/-- What steps return that make register calls. -/
def registerAnswers (s : Session ρ) (steps : List (Step ρ)) : List Answer :=
  ((steps.zip (s.run steps)).filter fun done => done.1.registerCall?.isSome).map (·.2.answer)

/-- One step makes the register call its address asks for, and no other. -/
lemma serves_step {s : Session ρ} (h : s.memory.Coherent) {next : Step ρ}
    (hkeeps : next.KeepsRegisters) :
    s.memory.Serves next.registerCall? (s.step next).answer (s.step next).session.memory := by
  cases next with
  | read w a => exact h.serves_read w a
  | write w a v => exact Memory.serves_of_outside (h.outside_write a v)
  | readRelative base disp => exact h.serves_readRelative base disp
  | writeRelative base disp v =>
    exact Memory.serves_of_outside (h.outside_writeRelative base disp v)
  | readDirect order w a => exact s.memory.serves_readDirect order w a
  | writeDirect order w a v => exact s.memory.serves_writeDirect order a v
  | writeSlice a data =>
    obtain ⟨ram, -, hm⟩ := s.memory.writeSlice_memory a data
    have hregisters := congrArg Memory.registers hm
    exact hregisters
  | patchRam start data =>
    obtain ⟨ram, -, hm⟩ := s.memory.patchRam_memory start data
    have hregisters := congrArg Memory.registers hm
    exact hregisters
  | attachRegisters bank => exact hkeeps.elim
  | attachListener => exact rfl
  | configure settings => exact rfl
  | provide files => exact rfl
  | reset =>
    obtain ⟨ram, bios, -, hm⟩ :=
      s.memory.reset_memory s.settings (s.files.list s.settings.biosDir)
    have hregisters := congrArg Memory.registers hm
    exact hregisters
  | loadImage path =>
    obtain ⟨bios, hm⟩ := s.memory.loadImage_memory path (s.files.openPath path)
    have hregisters := congrArg Memory.registers hm
    exact hregisters

/-- By induction on the steps: to the registers a session is its register calls. -/
theorem registers_after (steps : List (Step ρ)) : ∀ {s : Session ρ} {bank : ρ},
    s.memory.Coherent → s.memory.registers = some bank →
    (∀ next ∈ steps, next.KeepsRegisters) →
      s.registerAnswers steps =
          (performAll RegisterCall.perform (steps.filterMap Step.registerCall?) bank).1 ∧
        (s.after steps).memory.registers =
          some (performAll RegisterCall.perform (steps.filterMap Step.registerCall?) bank).2 := by
  induction steps with
  | nil =>
    intro s bank _ hbank _
    exact ⟨rfl, hbank⟩
  | cons next rest ih =>
    intro s bank h hbank hkeeps
    have hserves := serves_step h (hkeeps next List.mem_cons_self)
    have hrest := fun bank hafter => @ih (s.step next).session bank (step_coherent h next) hafter
      (fun later hlater => hkeeps later (List.mem_cons_of_mem next hlater))
    have hafter : s.after (next :: rest) = (s.step next).session.after rest := rfl
    cases hcall : next.registerCall? with
    | none =>
      rw [hcall] at hserves
      obtain ⟨hanswers, hregisters⟩ := hrest bank (hserves.trans hbank)
      have hskip :
          s.registerAnswers (next :: rest) = (s.step next).session.registerAnswers rest := by
        simp [registerAnswers, run, hcall]
      rw [hskip, hafter, List.filterMap_cons_none hcall]
      exact ⟨hanswers, hregisters⟩
    | some call =>
      rw [hcall] at hserves
      obtain ⟨hanswer, hregister⟩ := hserves bank hbank
      obtain ⟨hanswers, hregisters⟩ := hrest _ hregister
      have htake : s.registerAnswers (next :: rest) =
          (s.step next).answer :: (s.step next).session.registerAnswers rest := by
        simp [registerAnswers, run, hcall]
      rw [htake, hafter, List.filterMap_cons_some hcall, hanswer, hanswers]
      exact ⟨rfl, hregisters⟩

end Bank

/-- Accesses of every width to a device of words, alone and through a memory. A narrow read is one
read of the aligned word, and a narrow write a read and a write of it. Where the words act as
memory, whatever they hold at first, every run of accesses returns what it returns on the bytes of
the words, and a write leaves the bytes beside its own. A session gets the same from its registers,
and leaves them the same, whichever of its accesses get there and whatever else it does. On the way
no value loses anything to the words it travels in. -/
theorem registers_bytewise {ρ : Type} [WordBank ρ] :
    (∀ (r : Recorded ρ) (calls : List RegisterCall),
      ∃ made, List.Forall₂ RegisterCall.Makes calls made ∧
        performAll RegisterCall.perform calls r =
          ((performAll RegisterCall.perform calls r.bank).1,
            ⟨(performAll RegisterCall.perform calls r.bank).2, r.calls ++ made.flatten⟩)) ∧
    (∀ (bank : ρ) (words : Address → BitVec 32), ActsAsMemory bank words →
      (∀ calls : List RegisterCall, (∀ call ∈ calls, call.Aligned) →
        (performAll RegisterCall.perform calls bank).1 =
            (performAll performOnBytes calls (bytesOf words)).1 ∧
          HoldsBytes (performAll RegisterCall.perform calls bank).2
            (performAll performOnBytes calls (bytesOf words)).2) ∧
      (∀ (w : Width) (a : Address) (v : Value w), (w = .word → a.toNat % 4 = 0) →
        ∃ after, ActsAsMemory (RegisterBank.write a v bank) after ∧
          (∀ i < w.bytes, bytesOf after (firstByte w a + BitVec.ofNat 32 i) = v.byte i) ∧
          ∀ p, (∀ i < w.bytes, firstByte w a + BitVec.ofNat 32 i ≠ p) →
            bytesOf after p = bytesOf words p) ∧
      (∀ (s : Session ρ) (steps : List (Step ρ)), s.memory.Reachable →
        s.memory.registers = some bank → (∀ next ∈ steps, next.KeepsRegisters) →
        let calls := steps.filterMap Step.registerCall?
        (∀ call ∈ calls, call.Aligned) →
          s.registerAnswers steps = (performAll performOnBytes calls (bytesOf words)).1 ∧
          (s.after steps).memory.registers =
            some (performAll RegisterCall.perform calls bank).2)) ∧
    (∀ (m : Memory ρ) (bank : ρ) (w : Width) (a : Address) (v : Value w),
      m.registers = some bank →
        (m.readRegister w a).value = .ofWord w (RegisterBank.read w a bank).1.toWord ∧
        (m.writeRegister a v).memory.registers =
          some (RegisterBank.write a (.ofWord w v.toWord : Value w) bank) ∧
        v.toWord.toNat = v.toNat) := by
  refine ⟨fun r calls => Recorded.performAll_eq calls r, ?_, ?_⟩
  · intro bank words hwords
    refine ⟨fun calls hcalls => hwords.performAll_eq hcalls,
      fun w a v ha => hwords.bytes_write ha v, ?_⟩
    intro s steps hs hbank hkeeps calls hcalls
    obtain ⟨hanswers, hafter⟩ := registers_after steps hs.coherent hbank hkeeps
    exact ⟨hanswers.trans (hwords.performAll_eq hcalls).1, hafter⟩
  · intro m bank w a v hbank
    rw [Value.ofWord_toWord, Value.ofWord_toWord, Memory.readRegister, Memory.writeRegister, hbank]
    exact ⟨rfl, rfl, v.toWord_toNat⟩

/-- A half written at an odd address and a byte, and both read again with the word around them. -/
theorem registers_bytewise_at_odd_half :
    let bank : WordMemory := ⟨fun _ => 0xAAAABBBB#32⟩
    let s := (start WordMemory {} {} false).1.after [.attachRegisters bank]
    let steps : List (Step WordMemory) := [.write .half 0x1F801073#32 0xBEEF#16,
      .writeDirect .big .byte 0x1F801070#32 0x12#8, .reset, .read .half 0x1F801071#32,
      .readDirect .big .word 0x1F801070#32]
    ActsAsMemory bank bank.words ∧ s.memory.Reachable ∧ s.memory.registers = some bank ∧
      (∀ next ∈ steps, next.KeepsRegisters) ∧
      (∀ call ∈ steps.filterMap Step.registerCall?, call.Aligned) ∧
      s.registerAnswers steps =
        [.nothing, .nothing, .value .half 0xBB12#16, .value .word 0xBEEFBB12#32] := by
  intro bank s steps
  have hwords : ActsAsMemory bank bank.words := fun _ _ => rfl
  have hs : s.memory.Reachable := ⟨{}, {}, false, [.attachRegisters bank], rfl⟩
  have hkeeps : ∀ next ∈ steps, next.KeepsRegisters := by
    simp only [steps, List.forall_mem_cons]
    decide
  have hmade : steps.filterMap Step.registerCall? = [.write .half 0x1F801073#32 0xBEEF#16,
      .write .byte 0x1F801070#32 0x12#8, .read .half 0x1F801071#32,
      .read .word 0x1F801070#32] := by decide
  have hcalls : ∀ call ∈ steps.filterMap Step.registerCall?, call.Aligned := by
    rw [hmade]
    decide
  have hanswers : (performAll performOnBytes [.write .half 0x1F801073#32 0xBEEF#16,
      .write .byte 0x1F801070#32 0x12#8, .read .half 0x1F801071#32, .read .word 0x1F801070#32]
      (bytesOf fun _ => 0xAAAABBBB#32)).1 =
        [.nothing, .nothing, .value .half 0xBB12#16, .value .word 0xBEEFBB12#32] := rfl
  obtain ⟨-, hruns, -⟩ := registers_bytewise (ρ := WordMemory)
  obtain ⟨-, -, hsession⟩ := hruns bank bank.words hwords
  refine ⟨hwords, hs, rfl, hkeeps, hcalls, ?_⟩
  rw [(hsession s steps hs rfl hkeeps hcalls).1, hmade]
  exact hanswers

end Session

end ConsoleMemory
