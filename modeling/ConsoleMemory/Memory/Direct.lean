import ConsoleMemory.Memory

/-!
# Direct accesses

A second way to the buffers, without the tables and without reports. It knows the user-segment
hardware page and the parallel page; every other load goes to the boot ROM and every other store to
the parallel window. Values are in the order of the host. An access that runs past the end of its
buffer loads zero or stores nothing.
-/

namespace ConsoleMemory

namespace Image

variable {n : Nat}

/-- Loads a value if all its bytes are inside the image, else zero. -/
def loadWhole? (img : Image n) (order : ByteOrder) (w : Width) (start : Nat) :
    Option (Value w) := do
  let stop ← runEnd? start w.bytes
  if stop ≤ n then return Value.ofBytes order w (← img.window? start w.bytes) else return 0

/-- Stores a value if all its bytes are inside the image. -/
def storeWhole? {w : Width} (img : Image n) (order : ByteOrder) (start : Nat) (v : Value w) :
    Option (Option (Image n)) := do
  let stop ← runEnd? start w.bytes
  if stop ≤ n then return some (← img.overwrite? start (v.toBytes order)) else return none

end Image

namespace Memory

variable {ρ : Type}

/-- Bytes of the hardware window that direct accesses treat as memory. -/
def directHardwareLimit : Nat := 0x1000

/-- A direct store to one of the windows, which is put back by `replace`. -/
def storeWindow? {w : Width} {n : Nat} (m : Memory ρ) (window : Image n)
    (replace : Image n → Memory ρ) (order : ByteOrder) (start : Nat) (v : Value w) :
    Option (Reply ρ Unit) :=
  (window.storeWhole? order start v).map fun
    | some window => (replace window).done .empty
    | none => m.done (.notice (.directWriteDropped start))

variable [RegisterBank ρ]

/-- A direct load. The position in the ROM is the address modulo its size. -/
def readDirect? (m : Memory ρ) (order : ByteOrder) (w : Width) (a : Address) :
    Option (Reply ρ (Value w)) := do
  if a.page = Segment.hardwarePage .kuseg then
    if a.offset < directHardwareLimit then
      return ⟨← m.hardware.loadWhole? order w a.offset, m, .empty⟩
    else return m.readRegister w a
  else if a.page = parallelPage then
    return ⟨← m.parallel.loadWhole? order w a.offset, m, .empty⟩
  else return ⟨← m.bios.loadWhole? order w (a.toNat % biosSize), m, .empty⟩

/-- A direct store. -/
def writeDirect? {w : Width} (m : Memory ρ) (order : ByteOrder) (a : Address) (v : Value w) :
    Option (Reply ρ Unit) :=
  if a.page = Segment.hardwarePage .kuseg then
    if a.offset < directHardwareLimit then
      m.storeWindow? m.hardware (fun hardware => { m with hardware }) order a.offset v
    else some (m.writeRegister a v)
  else m.storeWindow? m.parallel (fun parallel => { m with parallel }) order a.offset v

/-- The outcome of a direct load. -/
def readDirect (m : Memory ρ) (order : ByteOrder) (w : Width) (a : Address) :
    Reply ρ (Value w) :=
  (m.readDirect? order w a).getD ⟨0, m, .empty⟩

/-- The outcome of a direct store. -/
def writeDirect {w : Width} (m : Memory ρ) (order : ByteOrder) (a : Address) (v : Value w) :
    Reply ρ Unit :=
  (m.writeDirect? order a v).getD (m.done .empty)

end Memory

end ConsoleMemory
