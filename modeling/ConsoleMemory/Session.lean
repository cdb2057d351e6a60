import ConsoleMemory.Files
import ConsoleMemory.Memory.Bulk
import ConsoleMemory.Memory.Direct
import ConsoleMemory.Memory.Relative

/-!
# Sessions

A session is a memory with its settings and files, worked by steps. Every state a memory can be in
is the end of a session from a fresh memory.
-/

namespace ConsoleMemory

/-- One operation of a session. -/
inductive Step (ρ : Type) where
  | read (w : Width) (a : Address)
  | write (w : Width) (a : Address) (v : Value w)
  | readRelative (base : Address) (disp : Int32)
  | writeRelative (base : Address) (disp : Int32) (v : Value .word)
  | readDirect (order : ByteOrder) (w : Width) (a : Address)
  | writeDirect (order : ByteOrder) (w : Width) (a : Address) (v : Value w)
  | writeSlice (a : Address) (data : ByteArray)
  | patchRam (start : Nat) (data : ByteArray)
  | attachRegisters (bank : ρ)
  | attachListener
  | configure (settings : Settings)
  | provide (files : Files)
  | reset
  | loadImage (path : String)

/-- What a step returns. -/
inductive Answer where
  | nothing
  | value (w : Width) (v : Value w)
  | stored (result : Except Fault Unit)
  | booted (outcome : BootOutcome) (settings : Settings)
  | loaded (result : Except Fault Nat)

/-- A memory with the settings and files it works with. -/
structure Session (ρ : Type) where
  memory : Memory ρ
  settings : Settings
  files : Files

namespace Session

variable {ρ : Type}

/-- A session with a fresh memory, and what making it told. -/
def start (ρ : Type) (settings : Settings) (files : Files) (canMap : Bool) : Session ρ × Trace :=
  let made := Memory.create ρ settings.mirroring canMap
  (⟨made.memory, settings, files⟩, made.trace)

/-- The outcome of a step. -/
structure Result (ρ : Type) where
  answer : Answer
  session : Session ρ
  trace : Trace

/-- A reply of the memory as the outcome of a step. -/
def ofReply {α : Type} (s : Session ρ) (r : Reply ρ α) (answer : α → Answer) : Result ρ :=
  ⟨answer r.value, { s with memory := r.memory }, r.trace⟩

variable [RegisterBank ρ]

/-- Does one step. -/
def step (s : Session ρ) : Step ρ → Result ρ
  | .read w a => s.ofReply (s.memory.read w a) (.value w)
  | .write _ a v => s.ofReply (s.memory.write a v) fun _ => .nothing
  | .readRelative base disp => s.ofReply (s.memory.readRelative base disp) (.value .word)
  | .writeRelative base disp v => s.ofReply (s.memory.writeRelative base disp v) fun _ => .nothing
  | .readDirect order w a => s.ofReply (s.memory.readDirect order w a) (.value w)
  | .writeDirect order _ a v => s.ofReply (s.memory.writeDirect order a v) fun _ => .nothing
  | .writeSlice a data => s.ofReply (s.memory.writeSlice a data) .stored
  | .patchRam start data => ⟨.nothing, { s with memory := s.memory.patchRam start data }, .empty⟩
  | .attachRegisters bank => ⟨.nothing, { s with memory := s.memory.attachRegisters bank }, .empty⟩
  | .attachListener => ⟨.nothing, { s with memory := s.memory.attachListener }, .empty⟩
  | .configure settings => ⟨.nothing, { s with settings }, .empty⟩
  | .provide files => ⟨.nothing, { s with files }, .empty⟩
  | .reset =>
    let r := s.memory.reset s.settings (s.files.list s.settings.biosDir)
    ⟨.booted r.value.1 r.value.2, { s with memory := r.memory, settings := r.value.2 }, r.trace⟩
  | .loadImage path => s.ofReply (s.memory.loadImage path (s.files.openPath path)) .loaded

/-- Does steps in order; the outcomes of all of them. -/
def run (s : Session ρ) : List (Step ρ) → List (Result ρ)
  | [] => []
  | first :: rest =>
    let r := s.step first
    r :: run r.session rest

/-- The session after steps. -/
def after (s : Session ρ) (steps : List (Step ρ)) : Session ρ :=
  steps.foldl (fun s next => (s.step next).session) s

end Session

/-- A memory that some session leads to. -/
def Memory.Reachable {ρ : Type} [RegisterBank ρ] (m : Memory ρ) : Prop :=
  ∃ (settings : Settings) (files : Files) (canMap : Bool) (steps : List (Step ρ)),
    ((Session.start ρ settings files canMap).1.after steps).memory = m

end ConsoleMemory
