import ConsoleMemory.Proofs.Boot
import ConsoleMemory.Proofs.Isolation

/-!
# The history of the ROM

The ROM changes when an image is loaded over it and when the machine is reset, and at no other time.
What it holds is therefore told by these events alone, and they in turn by the settings and files
of the session, which no access to the memory touches.
-/

namespace ConsoleMemory

/-- The bytes of a file laid over others from the start on, as far as the ROM goes. -/
def overlay (file : ByteArray) (rom : Nat → UInt8) (p : Nat) : UInt8 :=
  if h : p < min file.size 524288 then file.get p (by omega) else rom p

/-- What changes a ROM: an image is loaded from what opening its file gave, or the machine is
reset. -/
inductive RomEvent where
  | load (opened : Opened)
  | reset (settings : Settings) (listing : Except OsFault Listing)

/-- The bytes of a ROM after an event. A file whose reading fails erases it, one that does not open
leaves it alone. -/
def RomEvent.apply (rom : Nat → UInt8) : RomEvent → Nat → UInt8
  | load (.reader calls) =>
    if calls.Reads 524288 then overlay calls.delivered rom else fun _ => 0
  | load (.refused _) => rom
  | reset settings listing =>
    match settings.image? listing with
    | none => fun _ => 0
    | some (_, file) => overlay file fun _ => 0

/-- The settings and files of a session. -/
structure Surroundings where
  settings : Settings
  files : Files

namespace Surroundings

variable {ρ : Type}

/-- What a step does to the settings and files. A reset leaves in the settings whether it found no
image. -/
def step (s : Surroundings) : Step ρ → Surroundings
  | .configure settings => { s with settings }
  | .provide files => { s with files }
  | .reset =>
    let outcome := s.settings.outcome (s.files.list s.settings.biosDir)
    { s with settings := { s.settings with hle := outcome.isHle } }
  | _ => s

/-- The change of the ROM that a step makes, if it makes one. -/
def romEvent? (s : Surroundings) : Step ρ → Option RomEvent
  | .loadImage path => some (.load (s.files.openPath path))
  | .reset => some (.reset s.settings (s.files.list s.settings.biosDir))
  | _ => none

/-- The changes of the ROM that steps make, in order. -/
def romEvents (s : Surroundings) : List (Step ρ) → List RomEvent
  | [] => []
  | next :: rest => (s.romEvent? next).toList ++ (s.step next).romEvents rest

end Surroundings

/-- The steps that change the ROM. -/
def Step.changesRom {ρ : Type} : Step ρ → Bool
  | .loadImage _ | .reset => true
  | _ => false

/-- The ROM before and after an image was loaded, as what came back says: the file was read and lies
over the ROM, or it did not open and the ROM is kept, or a call failed before the ROM was full and
the ROM is zero. -/
def LoadedRom (opened : Opened) (before after : Nat → UInt8) : Except Fault Nat → Prop
  | .ok count =>
    ∃ calls, opened = .reader calls ∧ calls.Reads 524288 ∧
      count = min calls.delivered.size 524288 ∧ after = overlay calls.delivered before
  | .error (.biosNotFound _) => (∃ cause, opened = .refused cause) ∧ after = before
  | .error (.io cause) =>
    (∃ calls, opened = .reader calls ∧ calls.fault? = some cause ∧
      calls.delivered.size < 524288) ∧ after = fun _ => 0
  | .error _ => False

/-- The ROM that the outcome of a reset describes: the image at the path it names with zeros after
it, or zeros. -/
def BootOutcome.DescribesRom (directory : String) (listing : Except OsFault Listing)
    (rom : Nat → UInt8) : BootOutcome → Prop
  | loaded path =>
    ∃ entries name calls, listing = .ok entries ∧ (name, .reader calls) ∈ entries ∧
      path = pathIn directory name ∧ calls.Reads 524288 ∧ 524288 ≤ calls.delivered.size ∧
      rom = overlay calls.delivered fun _ => 0
  | truncated path count =>
    ∃ entries name calls, listing = .ok entries ∧ (name, .reader calls) ∈ entries ∧
      path = pathIn directory name ∧ calls.Reads 524288 ∧ calls.delivered.size = count ∧
      0 < count ∧ count < 524288 ∧ rom = overlay calls.delivered fun _ => 0
  | hle _ => rom = fun _ => 0

lemma Step.IsQuiet.changesRom_eq_false {ρ : Type} {next : Step ρ} (h : next.IsQuiet) :
    next.changesRom = false := by
  cases next <;> first | rfl | exact h.elim

lemma Surroundings.romEvent?_eq_none {ρ : Type} (s : Surroundings) {next : Step ρ}
    (h : next.changesRom = false) : s.romEvent? next = none := by
  cases next with
  | reset => exact absurd h (by simp [Step.changesRom])
  | loadImage path => exact absurd h (by simp [Step.changesRom])
  | _ => rfl

lemma get_patch_zero (rom : Image biosSize) (file : ByteArray) :
    (rom.patch 0 file).get = overlay file rom.get := by
  funext p
  have hsize : biosSize = 524288 := rfl
  rw [Image.get_patch, overlay]
  by_cases hin : p < min file.size 524288
  · have hpatched : 0 ≤ p ∧ p < 0 + file.size ∧ p < biosSize := by omega
    rw [dif_pos hpatched, dif_pos hin]
    rfl
  · have hout : ¬(0 ≤ p ∧ p < 0 + file.size ∧ p < biosSize) := by omega
    rw [dif_neg hout, dif_neg hin]

lemma get_zero_eq (n : Nat) : (Image.zero n).get = fun _ => 0 := by
  funext p
  exact Image.get_zero p

lemma get_romOf_eq_apply (rom : Nat → UInt8) (settings : Settings)
    (listing : Except OsFault Listing) :
    (romOf (settings.image? listing)).get = RomEvent.apply rom (.reset settings listing) := by
  rw [RomEvent.apply]
  cases settings.image? listing with
  | none => exact get_zero_eq _
  | some image =>
    rw [romOf, get_patch_zero, get_zero_eq]

/-- The image a reset boots from is a file of the directory that is read without a failure. -/
lemma exists_of_image?_eq_some {settings : Settings} {listing : Except OsFault Listing}
    {name : String} {file : ByteArray} (h : settings.image? listing = some (name, file)) :
    settings.hle = false ∧ ∃ entries calls, listing = .ok entries ∧
      entries.findSome? (bootImage? settings.bios) = some (name, calls.delivered) ∧
      (name, .reader calls) ∈ entries ∧ calls.Reads 524288 ∧ calls.delivered.size ≠ 0 ∧
      file = calls.delivered := by
  cases listing with
  | error cause => simp [Settings.image?] at h
  | ok entries =>
    cases hhle : settings.hle with
    | true => simp [Settings.image?, hhle] at h
    | false =>
      simp only [Settings.image?, hhle, Bool.false_eq_true, if_false] at h
      obtain ⟨⟨entryName, opened⟩, hmem, hentry⟩ := List.exists_of_findSome?_eq_some h
      cases opened with
      | reader calls =>
        simp only [bootImage?] at hentry
        split at hentry
        case isTrue hfit =>
          obtain ⟨rfl, rfl⟩ := Prod.mk.inj (Option.some.inj hentry)
          exact ⟨rfl, entries, calls, rfl, h, hmem, hfit.2.1, hfit.2.2, rfl⟩
        case isFalse => exact absurd hentry (by simp)
      | refused cause => exact absurd hentry (by simp [bootImage?])

lemma Settings.describesRom_outcome (settings : Settings) (listing : Except OsFault Listing)
    (rom : Nat → UInt8) :
    (settings.outcome listing).DescribesRom settings.biosDir listing
      (RomEvent.apply rom (.reset settings listing)) := by
  have hhle := settings.isHle_outcome_iff listing
  rw [RomEvent.apply]
  cases himage : settings.image? listing with
  | none =>
    have hout := hhle.2 himage
    cases houtcome : settings.outcome listing with
    | hle reason => rfl
    | loaded path => simp [houtcome, BootOutcome.isHle] at hout
    | truncated path count => simp [houtcome, BootOutcome.isHle] at hout
  | some image =>
    obtain ⟨name, file⟩ := image
    obtain ⟨hoff, entries, calls, rfl, hfound, hmem, hreads, hsize, rfl⟩ :=
      exists_of_image?_eq_some himage
    simp only [Settings.outcome, hoff, hfound, BootOutcome.ofImage?]
    by_cases hfull : 524288 ≤ calls.delivered.size
    · rw [if_pos hfull]
      exact ⟨entries, name, calls, rfl, hmem, rfl, hreads, hfull, rfl⟩
    · rw [if_neg hfull]
      exact ⟨entries, name, calls, rfl, hmem, rfl, hreads, rfl, by omega, by omega, rfl⟩

/-! ### One step -/

namespace Outside

variable {ρ : Type} [RegisterBank ρ]

lemma bios_store {w : Width} (o : Outside ρ) (a : Address) (v : Value w) :
    (o.store a v).1.bios = o.bios := by
  unfold store
  split
  case h_3 => split <;> rfl
  all_goals rfl

end Outside

namespace Memory

variable {ρ : Type}

lemma reset_value (m : Memory ρ) (settings : Settings) (listing : Except OsFault Listing) :
    (m.reset settings listing).value =
      (settings.outcome listing, { settings with hle := (settings.outcome listing).isHle }) := by
  have hboots := findImage_boots (m := m.clearForReset) rfl settings listing
  unfold reset
  dsimp only
  rw [hboots.value]

lemma reset_memory_eq (m : Memory ρ) (settings : Settings) (listing : Except OsFault Listing) :
    (m.reset settings listing).memory =
      { m.clearForReset with bios := romOf (settings.image? listing) } :=
  (findImage_boots (m := m.clearForReset) rfl settings listing).memory

lemma loadedRom_loadImage (m : Memory ρ) (path : String) (opened : Opened) :
    LoadedRom opened m.bios.get (m.loadImage path opened).memory.bios.get
      (m.loadImage path opened).value := by
  cases opened with
  | reader calls =>
    rcases calls.reads_or_fails biosSize with hreads | ⟨cause, hfault, hshort⟩
    · rw [m.loadImage_of_reads path hreads]
      exact ⟨calls, rfl, hreads, Nat.min_comm _ _, get_patch_zero m.bios calls.delivered⟩
    · rw [m.loadImage_of_fails path hfault hshort]
      exact ⟨⟨calls, rfl, hfault, hshort⟩, get_zero_eq _⟩
  | refused cause => exact ⟨⟨cause, rfl⟩, rfl⟩

lemma bios_loadImage (m : Memory ρ) (path : String) (opened : Opened) :
    (m.loadImage path opened).memory.bios.get = RomEvent.apply m.bios.get (.load opened) := by
  cases opened with
  | reader calls =>
    rw [RomEvent.apply]
    rcases calls.reads_or_fails biosSize with hreads | ⟨cause, hfault, hshort⟩
    · rw [m.loadImage_of_reads path hreads, if_pos hreads]
      exact get_patch_zero m.bios calls.delivered
    · rw [m.loadImage_of_fails path hfault hshort, if_neg (Reader.not_reads hfault hshort)]
      exact get_zero_eq _
  | refused cause => rfl

lemma trace_loadImage (m : Memory ρ) (path : String) (opened : Opened) :
    (m.loadImage path opened).trace = .empty := by
  cases opened with
  | reader calls =>
    unfold loadImage
    dsimp only
    split <;> rfl
  | refused cause => rfl

variable [RegisterBank ρ] {m : Memory ρ}

lemma Coherent.bios_write (h : m.Coherent) {w : Width} (a : Address) (v : Value w) :
    (m.write a v).memory.bios = m.bios := by
  have hstore := congrArg (fun o => o.1.bios) (h.outside_write a v)
  exact hstore.trans (m.outside.bios_store a v)

lemma Coherent.bios_writeRelative (h : m.Coherent) (base : Address) (disp : Int32)
    (v : Value .word) : (m.writeRelative base disp v).memory.bios = m.bios := by
  have hstore := congrArg (fun o => o.1.bios) (h.outside_writeRelative base disp v)
  exact hstore.trans (m.outside.bios_store _ v)

end Memory

namespace Session

variable {ρ : Type}

/-- The settings and files of a session. -/
def surroundings (s : Session ρ) : Surroundings := ⟨s.settings, s.files⟩

variable [RegisterBank ρ]

lemma step_surroundings (s : Session ρ) (next : Step ρ) :
    (s.step next).session.surroundings = s.surroundings.step next := by
  cases next with
  | reset =>
    have hvalue := s.memory.reset_value s.settings (s.files.list s.settings.biosDir)
    simp only [step, surroundings, Surroundings.step, hvalue]
  | _ => rfl

/-- What a step does to the ROM is told by the settings and files. -/
theorem step_rom {s : Session ρ} (h : s.memory.Coherent) (next : Step ρ) :
    (s.step next).session.memory.bios.get =
      (s.surroundings.romEvent? next).elim s.memory.bios.get
        (RomEvent.apply s.memory.bios.get) := by
  by_cases hquiet : next.IsQuiet
  · obtain ⟨ram, registers, listening, -, hm⟩ := s.step_quiet hquiet
    rw [s.surroundings.romEvent?_eq_none hquiet.changesRom_eq_false, hm]
    rfl
  · cases next with
    | write w a v => exact congrArg Image.get (h.bios_write a v)
    | writeRelative base disp v => exact congrArg Image.get (h.bios_writeRelative base disp v)
    | writeDirect order w a v =>
      obtain ⟨parallel, hardware, registers, hm⟩ := s.memory.writeDirect_memory order a v
      exact congrArg (fun m => m.bios.get) hm
    | reset =>
      have hmemory := s.memory.reset_memory_eq s.settings (s.files.list s.settings.biosDir)
      have hbios := congrArg (fun m => m.bios.get) hmemory
      exact hbios.trans (get_romOf_eq_apply s.memory.bios.get _ _)
    | loadImage path => exact s.memory.bios_loadImage path (s.files.openPath path)
    | _ => exact absurd trivial hquiet

/-- By induction on the steps: the ROM is the fold of its changes. -/
theorem after_rom (steps : List (Step ρ)) : ∀ {s : Session ρ}, s.memory.Coherent →
    (s.after steps).memory.bios.get =
      (s.surroundings.romEvents steps).foldl RomEvent.apply s.memory.bios.get := by
  induction steps with
  | nil =>
    intro s _
    rfl
  | cons next rest ih =>
    intro s h
    have hrest := ih (step_coherent h next)
    rw [step_surroundings, step_rom h] at hrest
    rw [after, List.foldl_cons, ← after, hrest, Surroundings.romEvents, List.foldl_append]
    cases s.surroundings.romEvent? next <;> rfl

/-- The ROM at the end of a session is the fold, from zeros, of the loads and resets of the session
alone. No other step changes a byte of it. A load that succeeds lays the file over the ROM, one
whose file does not open keeps it, one whose reading fails erases it, and none of them does
anything else. A reset leaves what its outcome describes. -/
theorem rom_follows_history (settings : Settings) (files : Files) (canMap : Bool)
    (steps : List (Step ρ)) :
    let s := (start ρ settings files canMap).1.after steps
    s.memory.bios.get =
      (Surroundings.romEvents ⟨settings, files⟩ steps).foldl RomEvent.apply (fun _ => 0) ∧
    (∀ next : Step ρ, next.changesRom = false →
      (s.step next).session.memory.bios = s.memory.bios) ∧
    (∀ path, ∃ result bios,
      s.step (.loadImage path) =
        ⟨.loaded result, { s with memory := { s.memory with bios } }, .empty⟩ ∧
      LoadedRom (s.files.openPath path) s.memory.bios.get bios.get result) ∧
    let listing := s.files.list s.settings.biosDir
    let outcome := s.settings.outcome listing
    (s.step .reset).answer = .booted outcome { s.settings with hle := outcome.isHle } ∧
      outcome.DescribesRom s.settings.biosDir listing
        (s.step .reset).session.memory.bios.get := by
  intro s
  have hstart : (start ρ settings files canMap).1.memory.Coherent :=
    start_coherent settings files canMap
  have h : s.memory.Coherent := after_coherent steps hstart
  refine ⟨?_, ?_, ?_, ?_⟩
  · have hzero : (start ρ settings files canMap).1.memory.bios.get = fun _ => 0 := get_zero_eq _
    rw [after_rom steps hstart, hzero]
    rfl
  · intro next hnext
    have hbios := step_rom h next
    rw [s.surroundings.romEvent?_eq_none hnext, Option.elim_none] at hbios
    exact Image.ext_get fun i _ => congrFun hbios i
  · intro path
    have hloaded := s.memory.loadedRom_loadImage path (s.files.openPath path)
    obtain ⟨bios, hm⟩ := s.memory.loadImage_memory path (s.files.openPath path)
    refine ⟨(s.memory.loadImage path (s.files.openPath path)).value, bios, ?_, ?_⟩
    · rw [step, ofReply, hm, s.memory.trace_loadImage]
    · rw [hm] at hloaded
      exact hloaded
  · intro listing outcome
    have hvalue := s.memory.reset_value s.settings listing
    have hanswer : (s.step .reset).answer = .booted (s.memory.reset s.settings listing).value.1
        (s.memory.reset s.settings listing).value.2 := rfl
    constructor
    · rw [hanswer, hvalue]
    · rw [step_rom h]
      exact s.settings.describesRom_outcome listing s.memory.bios.get

end Session

end ConsoleMemory
