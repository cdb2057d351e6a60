import ConsoleMemory.Memory.Guest

/-!
# Displaced RAM accesses

Translated code names RAM words by a base address and a signed displacement. When the base is in a
RAM window and the displaced offset stays inside RAM or its guards, the word is taken from RAM
directly, wrapped around its ends; otherwise the access is an ordinary guest access at the displaced
address. A store takes the direct way only while stores to RAM are enabled.
-/

namespace ConsoleMemory.Memory

variable {ρ : Type}

/-- The address a displacement leads to, modulo 2 to the 32. -/
def displaced (base : Address) (disp : Int32) : Address := base + disp.toBitVec

/-- The offset a displacement leads to, counted from the start of RAM. -/
def ramOffset (base : Address) (disp : Int32) : Int64 :=
  Int64.ofNat (base.toNat % ramSize) + disp.toInt64

/-- The address, in the segment of the base, of the RAM byte at an offset. -/
def ramAddress (base : Address) (offset : Int64) : Address :=
  (Segment.ofAddress base).base ||| BitVec.ofNat 32 (Ram.wrapOffset offset)

/-- Whether loads from an address go to RAM. -/
def readsRam (m : Memory ρ) (a : Address) : Bool := (m.tables.readEntry a).buffer == .ram

/-- Whether stores to an address go to RAM. -/
def writesRam (m : Memory ρ) (a : Address) : Bool :=
  match m.tables.writeEntry a with
  | some entry => entry.buffer == .ram
  | none => false

/-- The bytes at a displacement, if they are taken from RAM directly. -/
def loadDisplaced? (m : Memory ρ) (base : Address) (disp : Int32) : Option (Option (List UInt8)) :=
  if m.readsRam base then
    m.ram.readGuarded? (Segment.ofAddress base) (ramOffset base disp) Width.word.bytes
  else some none

/-- RAM after a store at a displacement, if it is changed directly. -/
def storeDisplaced? (m : Memory ρ) (base : Address) (disp : Int32) (data : List UInt8) :
    Option (Option Ram) :=
  if m.writesRam base then
    m.ram.writeGuarded? (Segment.ofAddress base) (ramOffset base disp) data
  else some none

variable [RegisterBank ρ]

/-- Loads a word at a displacement from a base. -/
def readRelative? (m : Memory ρ) (base : Address) (disp : Int32) :
    Option (Reply ρ (Value .word)) := do
  match ← m.loadDisplaced? base disp with
  | some bytes => return ⟨Value.ofBytes guestOrder .word bytes, m, .empty⟩
  | none => m.read? .word (displaced base disp)

/-- Stores a word at a displacement from a base. A direct store reports the RAM word it lands on. -/
def writeRelative? (m : Memory ρ) (base : Address) (disp : Int32) (v : Value .word) :
    Option (Reply ρ Unit) := do
  match ← m.storeDisplaced? base disp (v.toBytes guestOrder) with
  | some ram => return done { m with ram } (m.report (ramAddress base (ramOffset base disp)) 1)
  | none => m.write? (displaced base disp) v

/-- The outcome of a load at a displacement. -/
def readRelative (m : Memory ρ) (base : Address) (disp : Int32) : Reply ρ (Value .word) :=
  (m.readRelative? base disp).getD ⟨0, m, .empty⟩

/-- The outcome of a store at a displacement. -/
def writeRelative (m : Memory ρ) (base : Address) (disp : Int32) (v : Value .word) :
    Reply ρ Unit :=
  (m.writeRelative? base disp v).getD (m.done .empty)

end ConsoleMemory.Memory
