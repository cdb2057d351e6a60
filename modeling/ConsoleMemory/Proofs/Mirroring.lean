import ConsoleMemory.Proofs.Coherence
import ConsoleMemory.Proofs.Unmirrored

/-!
# The way RAM is kept makes no difference

Sessions that differ in how RAM is kept and in nothing else answer every sequence of steps alike,
with the same register calls, reports and notices, and stay alike. Only the name of the way, which
never changes, tells them apart.
-/

namespace ConsoleMemory

/-- The same settings with RAM in one buffer. -/
def Settings.unmirrored (settings : Settings) : Settings := { settings with mirroring := .table }

/-- The same answer, with RAM in one buffer in settings it tells. -/
def Answer.unmirrored : Answer → Answer
  | .booted outcome settings => .booted outcome settings.unmirrored
  | answer => answer

/-- A reset looks at the settings for the boot image and not for the way RAM is kept. -/
lemma Memory.reset_settings_unmirrored {ρ : Type} (m : Memory ρ) (settings : Settings)
    (listing : Except OsFault Listing) :
    m.reset settings.unmirrored listing =
      { m.reset settings listing with
        value := ((m.reset settings listing).value.1,
          (m.reset settings listing).value.2.unmirrored) } := by
  have hfound : m.clearForReset.findImage settings.unmirrored listing =
      m.clearForReset.findImage settings listing := rfl
  unfold reset
  rw [hfound]
  rfl

namespace Session

variable {ρ : Type}

/-- Sessions that differ at most in how RAM is kept. -/
structure Alike (s t : Session ρ) : Prop where
  ram : ∀ segment, s.memory.ram.view segment = t.memory.ram.view segment
  parallel : s.memory.parallel = t.memory.parallel
  hardware : s.memory.hardware = t.memory.hardware
  bios : s.memory.bios = t.memory.bios
  sink : s.memory.sink = t.memory.sink
  tables : s.memory.tables = t.memory.tables
  cache : s.memory.cache = t.memory.cache
  control : s.memory.control = t.memory.control
  registers : s.memory.registers = t.memory.registers
  listening : s.memory.listening = t.memory.listening
  settings : s.settings.unmirrored = t.settings.unmirrored
  files : s.files = t.files

/-- Outcomes with the same answer and the same trace that leave sessions alike. -/
structure Result.Alike (r r' : Result ρ) : Prop where
  answer : r.answer.unmirrored = r'.answer.unmirrored
  session : r.session.Alike r'.session
  trace : r.trace = r'.trace

/-- The same session with RAM in one buffer. -/
def unmirrored (s : Session ρ) : Session ρ :=
  ⟨s.memory.unmirrored, s.settings.unmirrored, s.files⟩

/-- The same outcome with RAM in one buffer. -/
def Result.unmirrored (r : Result ρ) : Result ρ :=
  ⟨r.answer.unmirrored, r.session.unmirrored, r.trace⟩

lemma alike_iff (s t : Session ρ) : s.Alike t ↔ s.unmirrored = t.unmirrored := by
  constructor
  · intro h
    have hram : s.memory.ram.unmirrored = t.memory.ram.unmirrored :=
      congrArg Ram.table (h.ram .kuseg)
    unfold unmirrored Memory.unmirrored
    rw [hram, h.parallel, h.hardware, h.bios, h.sink, h.tables, h.cache, h.control, h.registers,
      h.listening, h.settings, h.files]
  · intro h
    obtain ⟨hmemory, hsettings, hfiles⟩ := Session.mk.inj h
    obtain ⟨hram, hparallel, hhardware, hbios, hsink, htables, hcache, hcontrol, hregisters,
      hlistening⟩ := Memory.mk.inj hmemory
    refine ⟨?_, hparallel, hhardware, hbios, hsink, htables, hcache, hcontrol, hregisters,
      hlistening, hsettings, hfiles⟩
    intro segment
    rw [s.memory.ram.view_congr segment .kuseg, t.memory.ram.view_congr segment .kuseg]
    exact Ram.table.inj hram

lemma Result.alike_of_unmirrored {r r' : Result ρ} (h : r.unmirrored = r'.unmirrored) :
    r.Alike r' := by
  obtain ⟨hanswer, hsession, htrace⟩ := Result.mk.inj h
  exact ⟨hanswer, (alike_iff _ _).2 hsession, htrace⟩

lemma ofReply_unmirrored {α : Type} (s : Session ρ) (r : Reply ρ α) (answer : α → Answer) :
    (s.unmirrored.ofReply r.unmirrored answer).unmirrored = (s.ofReply r answer).unmirrored := rfl

variable [RegisterBank ρ]

/-- Every step does the same when RAM is put in one buffer first. -/
lemma step_unmirrored (s : Session ρ) (next : Step ρ) :
    (s.unmirrored.step next).unmirrored = (s.step next).unmirrored := by
  have hmemory : s.unmirrored.memory = s.memory.unmirrored := rfl
  cases next with
  | read w a => rw [step, step, hmemory, Memory.read_unmirrored, ofReply_unmirrored]
  | write w a v => rw [step, step, hmemory, Memory.write_unmirrored, ofReply_unmirrored]
  | readRelative base disp =>
    rw [step, step, hmemory, Memory.readRelative_unmirrored, ofReply_unmirrored]
  | writeRelative base disp v =>
    rw [step, step, hmemory, Memory.writeRelative_unmirrored, ofReply_unmirrored]
  | readDirect order w a =>
    rw [step, step, hmemory, Memory.readDirect_unmirrored, ofReply_unmirrored]
  | writeDirect order w a v =>
    rw [step, step, hmemory, Memory.writeDirect_unmirrored, ofReply_unmirrored]
  | writeSlice a data =>
    rw [step, step, hmemory, Memory.writeSlice_unmirrored, ofReply_unmirrored]
  | patchRam start data =>
    rw [step, step, hmemory, Memory.patchRam_unmirrored]
    rfl
  | attachRegisters bank => rfl
  | attachListener => rfl
  | configure settings => rfl
  | provide files => rfl
  | reset =>
    have hsettings : s.unmirrored.settings = s.settings.unmirrored := rfl
    have hlisting : s.unmirrored.files.list s.settings.unmirrored.biosDir =
        s.files.list s.settings.biosDir := rfl
    unfold step
    dsimp only
    rw [hmemory, hsettings, hlisting, Memory.reset_unmirrored, Memory.reset_settings_unmirrored]
    rfl
  | loadImage path =>
    rw [step, step, hmemory, Memory.loadImage_unmirrored]
    exact ofReply_unmirrored _ _ _

lemma Alike.step {s t : Session ρ} (h : s.Alike t) (next : Step ρ) :
    (s.step next).Alike (t.step next) := by
  have heq := (alike_iff s t).1 h
  apply Result.alike_of_unmirrored
  rw [← step_unmirrored s, ← step_unmirrored t, heq]

/-- By induction on the steps: sessions that start alike stay alike. -/
lemma Alike.run (steps : List (Step ρ)) : ∀ {s t : Session ρ}, s.Alike t →
    List.Forall₂ Result.Alike (s.run steps) (t.run steps) := by
  induction steps with
  | nil =>
    intro s t _
    exact .nil
  | cons next rest ih =>
    intro s t h
    have hstep := h.step next
    exact .cons hstep (ih hstep.session)

/-! ### The name of the way -/

lemma run_name (steps : List (Step ρ)) : ∀ {s : Session ρ}, s.memory.Coherent →
    ∀ r ∈ s.run steps, r.session.memory.ram.name = s.memory.ram.name := by
  induction steps with
  | nil =>
    intro s _ r hr
    exact absurd hr List.not_mem_nil
  | cons next rest ih =>
    intro s h r hr
    rcases List.mem_cons.1 hr with rfl | hlater
    · exact step_name h next
    · rw [ih (step_coherent h next) r hlater, step_name h next]

/-- A session with aliased RAM and one with RAM in a single buffer give the same answers, register
calls, reports and notices, step by step, and stay alike. Where RAM cannot be mapped this is so as
well, and then the name of the way is the same too. -/
theorem mirroring_unobservable (settings : Settings) (files : Files) (canMap : Bool)
    (steps : List (Step ρ)) :
    let table := start ρ { settings with mirroring := .table } files canMap
    let aliased := start ρ { settings with mirroring := .aliased } files canMap
    table.1.Alike aliased.1 ∧
      table.2.calls = aliased.2.calls ∧ table.2.clears = aliased.2.clears ∧
      List.Forall₂ Result.Alike (table.1.run steps) (aliased.1.run steps) ∧
      (∀ r ∈ table.1.run steps, r.session.memory.ram.name = "table") ∧
      ∀ r ∈ aliased.1.run steps,
        r.session.memory.ram.name = if canMap then "aliased" else "table" := by
  intro table aliased
  have halike : table.1.Alike aliased.1 := by
    rw [alike_iff]
    cases canMap <;> rfl
  have hname : aliased.1.memory.ram.name = if canMap then "aliased" else "table" := by
    cases canMap <;> rfl
  have htable : table.1.memory.Coherent := start_coherent _ files canMap
  have haliased : aliased.1.memory.Coherent := start_coherent _ files canMap
  refine ⟨halike, ?_, ?_, halike.run steps, run_name steps htable, ?_⟩
  · cases canMap <;> rfl
  · cases canMap <;> rfl
  · intro r hr
    rw [run_name steps haliased r hr, hname]

end Session

end ConsoleMemory
