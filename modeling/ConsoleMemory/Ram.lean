import ConsoleMemory.Fault
import ConsoleMemory.Image.Access
import ConsoleMemory.Region

/-!
# RAM and its guards

RAM is 2 MB, seen through three segments, with a guard of 64 KB below and above that shows the other
end of RAM. It is kept in one of two ways: as one buffer whose positions are reduced modulo its
size, or as a file mapped once per segment and once per guard. Offsets of guarded accesses are
64-bit signed integers. A sum that is none stops the program, and so does an index outside of a
buffer or a mapping; such an access has no outcome, and any other is refused or done.
-/

namespace ConsoleMemory

/-- The mappings of the file behind aliased RAM. -/
inductive MappedView where
  | segment (s : Segment)
  | lowerGuard
  | upperGuard
  deriving DecidableEq, Repr

namespace MappedView

/-- Where in the file a mapping starts: the lower guard shows the tail, all others the head. -/
def start : MappedView → Nat
  | segment _ => 0
  | lowerGuard => ramSize - guardSize
  | upperGuard => 0

/-- Bytes of a mapping. -/
def length : MappedView → Nat
  | segment _ => ramSize
  | lowerGuard => guardSize
  | upperGuard => guardSize

/-- The mapping, and the index in it, for a position relative to the start of a segment's RAM. -/
def route (s : Segment) (position : Int64) : MappedView × Nat :=
  let p := position.toInt
  if p < 0 then (lowerGuard, (p + guardSize).toNat)
  else if ramSize ≤ p then (upperGuard, (p - ramSize).toNat)
  else (segment s, p.toNat)

/-- The byte at an index of a mapping that has to be inside. -/
def byteAt? (view : MappedView) (file : Image ramSize) (i : Nat) : Option UInt8 :=
  if i < view.length then file.byteAt? (view.start + i) else none

/-- Puts a byte at an index of a mapping that has to be inside. -/
def putAt? (view : MappedView) (file : Image ramSize) (i : Nat) (b : UInt8) :
    Option (Image ramSize) :=
  if i < view.length then file.putAt? (view.start + i) b else none

end MappedView

/-- Main RAM: one buffer, or a file that all mappings share. -/
inductive Ram where
  | table (buffer : Image ramSize)
  | aliased (file : Image ramSize)

namespace Ram

/-- The offset some bytes further on. -/
def addOffset? (offset : Int64) (count : Nat) : Option Int64 :=
  if offset.toInt + count < 0x8000000000000000 then some (offset + Int64.ofNat count) else none

/-- Whether `count` bytes from `offset` on lie in RAM and its guards. -/
def inGuardWindow? (offset : Int64) (count : Nat) : Option Bool :=
  if -Int64.ofNat guardSize ≤ offset then
    (addOffset? offset count).map fun stop => decide (stop ≤ Int64.ofNat (ramSize + guardSize))
  else some false

/-- A position reduced modulo the size of RAM. -/
def wrapOffset (position : Int64) : Nat := (position.toInt % ramSize).toNat

/-- RAM in one buffer, all zero. -/
def ofBuffer : Ram := table (Image.zero ramSize)

/-- RAM in a mapped file, all zero, if the file can be made. -/
def ofMapping? (canMap : Bool) : Except Fault Ram :=
  if canMap then .ok (aliased (Image.zero ramSize)) else .error (.mapping "backing file")

/-- The name of the way RAM is kept. -/
def name : Ram → String
  | table _ => "table"
  | aliased _ => "aliased"

/-- RAM seen through a segment. Every segment maps the whole file. -/
def view (ram : Ram) (_ : Segment) : Image ramSize :=
  match ram with
  | table buffer => buffer
  | aliased file => file

/-- Changes RAM through a segment. -/
def modify (ram : Ram) (_ : Segment) (change : Image ramSize → Image ramSize) : Ram :=
  match ram with
  | table buffer => table (change buffer)
  | aliased file => aliased (change file)

/-- All RAM becomes zero. -/
def clear (ram : Ram) : Ram := ram.modify .kuseg fun _ => Image.zero ramSize

/-- The byte at a position of RAM or a guard. A mapping has no index below the lower guard. -/
def guardByte? (ram : Ram) (s : Segment) (position : Int64) : Option UInt8 :=
  match ram with
  | table buffer => buffer.byteAt? (wrapOffset position)
  | aliased file =>
    let (mapping, i) := MappedView.route s position
    if position.toInt + guardSize < 0 then none else mapping.byteAt? file i

/-- Puts a byte at a position of RAM or a guard. -/
def setGuardByte? (ram : Ram) (s : Segment) (position : Int64) (b : UInt8) : Option Ram :=
  match ram with
  | table buffer => (buffer.putAt? (wrapOffset position) b).map table
  | aliased file =>
    let (mapping, i) := MappedView.route s position
    if position.toInt + guardSize < 0 then none else (mapping.putAt? file i b).map aliased

/-- Puts bytes one after another, from so many positions after an offset on. -/
def setGuardBytes? (ram : Ram) (s : Segment) (offset : Int64) (count : Nat) :
    List UInt8 → Option Ram
  | [] => some ram
  | b :: rest => do
    let next ← ram.setGuardByte? s (← addOffset? offset count) b
    next.setGuardBytes? s offset (count + 1) rest

/-- Reads `count` bytes at an offset from a segment's RAM; nothing outside the guard window. -/
def readGuarded? (ram : Ram) (s : Segment) (offset : Int64) (count : Nat) :
    Option (Option (List UInt8)) := do
  if ← inGuardWindow? offset count then
    let bytes ← (List.range count).mapM fun i => do ram.guardByte? s (← addOffset? offset i)
    return some bytes
  else return none

/-- Writes bytes at an offset from a segment's RAM; nothing outside the guard window. -/
def writeGuarded? (ram : Ram) (s : Segment) (offset : Int64) (data : List UInt8) :
    Option (Option Ram) := do
  if ← inGuardWindow? offset data.length then return some (← ram.setGuardBytes? s offset 0 data)
  else return none

end Ram

end ConsoleMemory
