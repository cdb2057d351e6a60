import ConsoleMemory.Image.Access
import ConsoleMemory.PageTable
import ConsoleMemory.Ram
import ConsoleMemory.Settings
import ConsoleMemory.Trace

/-!
# The memory of a machine

All buffers, the page tables, the cache state and the attached collaborators. Operations on it
return a reply: a result, the memory afterwards and the trace of what happened.
-/

namespace ConsoleMemory

/-- Whether guest stores reach RAM. -/
inductive CacheState where
  | writeEnabled
  | writeDisabled
  deriving DecidableEq, Repr

/-- The memory of a machine whose registers have state `ρ`. -/
structure Memory (ρ : Type) where
  ram : Ram
  parallel : Image parallelSize
  /-- The hardware window; its first bytes are the scratchpad. -/
  hardware : Image hardwareSize
  bios : Image biosSize
  /-- What unmapped loads see. -/
  sink : Image pageSize
  tables : PageTables
  cache : CacheState
  /-- The last value stored to the cache control register. -/
  control : BitVec 32
  registers : Option ρ
  /-- Whether someone is told of stores to code. -/
  listening : Bool

/-- The outcome of an operation on a memory. -/
structure Reply (ρ α : Type) where
  value : α
  memory : Memory ρ
  trace : Trace

namespace Memory

variable {ρ : Type}

/-- A reply that only changes the memory. -/
def done (m : Memory ρ) (trace : Trace) : Reply ρ Unit := ⟨(), m, trace⟩

/-- Whether guest stores reach RAM. -/
def isWriteEnabled (m : Memory ρ) : Bool := decide (m.cache = .writeEnabled)

/-- RAM kept in the wanted way; where the file cannot be mapped, in one buffer. -/
def makeRam (mirroring : Mirroring) (canMap : Bool) : Ram × Trace :=
  match mirroring with
  | .table => (Ram.ofBuffer, .empty)
  | .aliased =>
    match Ram.ofMapping? canMap with
    | .ok ram => (ram, .notice .mappedRam)
    | .error cause => (Ram.ofBuffer, .notice (.mappingFailed cause))

/-- A fresh memory: all buffers zero, stores to RAM enabled, nothing attached. -/
def create (ρ : Type) (mirroring : Mirroring) (canMap : Bool) : Reply ρ Unit :=
  let (ram, trace) := makeRam mirroring canMap
  done
    { ram
      parallel := Image.zero _
      hardware := Image.zero _
      bios := Image.zero _
      sink := Image.zero _
      tables := .initial
      cache := .writeEnabled
      control := 0
      registers := none
      listening := false }
    (trace ++ .notice (.initialized ram.name))

/-- The last words of a memory. -/
def shutDown (m : Memory ρ) : Trace := .notice (.shutDown m.ram.name)

/-- Attaches registers in place of any before. -/
def attachRegisters (m : Memory ρ) (bank : ρ) : Memory ρ := { m with registers := some bank }

/-- From now on stores to code are reported. -/
def attachListener (m : Memory ρ) : Memory ρ := { m with listening := true }

/-- RAM as its owner sees it. -/
def ramImage (m : Memory ρ) : Image ramSize := m.ram.view .kuseg

/-- Copies bytes into RAM behind the guest's back. They have to be inside. -/
def patchRam? (m : Memory ρ) (start : Nat) (data : ByteArray) : Option (Memory ρ) :=
  if start + data.size ≤ m.ramImage.bytes.size then
    some { m with ram := m.ram.modify .kuseg fun image => image.patch start data }
  else none

/-- The memory after bytes have been copied into RAM. -/
def patchRam (m : Memory ρ) (start : Nat) (data : ByteArray) : Memory ρ :=
  (m.patchRam? start data).getD m

/-- The report that `words` words of code from an address on changed, if someone listens. -/
def report (m : Memory ρ) (a : Address) (words : Nat) : Trace :=
  if m.listening then { clears := [⟨a, words⟩] } else .empty

variable [RegisterBank ρ]

/-- Reads a register; zero if none are attached. -/
def readRegister (m : Memory ρ) (w : Width) (a : Address) : Reply ρ (Value w) :=
  match m.registers with
  | none => ⟨0, m, .notice (.registersAbsentForRead w a)⟩
  | some bank =>
    let (v, after) := RegisterBank.read w a bank
    ⟨v, { m with registers := some after },
      .call (.read w a) (.registerRead (RegisterBank.name after) w a v)⟩

/-- Writes a register; nothing happens if none are attached. -/
def writeRegister {w : Width} (m : Memory ρ) (a : Address) (v : Value w) : Reply ρ Unit :=
  match m.registers with
  | none => m.done (.notice (.registersAbsentForWrite w a v))
  | some bank =>
    done { m with registers := some (RegisterBank.write a v bank) }
      (.call (.write w a v) (.registerWrite (RegisterBank.name bank) w a v))

end Memory

end ConsoleMemory
