import ConsoleMemory.Memory

/-!
# Guest loads and stores

The path every guest access takes. The hardware pages are decoded first: the scratchpad at their
start, registers above. All other pages go through the tables. A store that lands in RAM or the
parallel window reports its word as changed code. A store without a table entry is dropped, apart
from a word stored to the cache control register, which switches stores to RAM off and on.
-/

namespace ConsoleMemory.Memory

variable {ρ : Type}

/-- The control values that disable stores to RAM. -/
def isolateValues : List (BitVec 32) := [0x800#32, 0x804#32]

/-- The control values that enable stores to RAM. -/
def releaseValues : List (BitVec 32) := [0x0#32, 0x1E988#32]

/-- A store to the cache control register. Every value is kept; only the known values have an
effect, and only when they change the state. -/
def storeControl (m : Memory ρ) (value : BitVec 32) : Reply ρ Unit :=
  let m := { m with control := value }
  if value ∈ isolateValues then
    match m.cache with
    | .writeDisabled => m.done .empty
    | .writeEnabled =>
      done { m with cache := .writeDisabled, tables := m.tables.unmapRamWrites }
        (.notice (.ramWritesDisabled value))
  else if value ∈ releaseValues then
    match m.cache with
    | .writeEnabled => m.done .empty
    | .writeDisabled =>
      done { m with cache := .writeEnabled, tables := m.tables.mapRamWrites }
        (.notice (.ramWritesEnabled value))
  else m.done (.notice (.controlIgnored value))

/-- A store to an address without a write entry. While RAM is isolated a dropped word is still
reported, because translated code may hold the value it would have replaced. -/
def storeUnmapped {w : Width} (m : Memory ρ) (a : Address) (v : Value w) : Reply ρ Unit :=
  if w = .word ∧ a = cacheControlAddress then m.storeControl v.toWord
  else
    let dropped := Trace.notice (.unmappedWrite w a v)
    if w = .word ∧ m.isWriteEnabled = false then m.done (dropped ++ m.report a 1)
    else m.done dropped

/-- The address reported for a store: the word around a narrow one, a wide one as it is. -/
def reportedAddress (w : Width) (a : Address) : Address :=
  match w with
  | .word => a
  | _ => a.wordStart

variable [RegisterBank ρ]

/-- A guest load. -/
def read? (m : Memory ρ) (w : Width) (a : Address) : Option (Reply ρ (Value w)) := do
  if isHardwarePage a.page then
    if a.offset < scratchpadSize then return ⟨← m.hardware.load? .stop w a.offset, m, .empty⟩
    else return m.readRegister w a
  else
    let entry := m.tables.readEntry a
    let index := entry.base + a.offset
    match entry.buffer with
    | .ram => return ⟨← (m.ram.view (Segment.ofAddress a)).load? .wrap w index, m, .empty⟩
    | .parallel => return ⟨← m.parallel.load? .stop w index, m, .empty⟩
    | .hardware => return ⟨← m.hardware.load? .stop w index, m, .empty⟩
    | .rom => return ⟨← m.bios.load? .stop w index, m, .empty⟩
    | .sink => return ⟨← m.sink.load? .stop w index, m, .notice (.unmappedRead w a)⟩

/-- A guest store. -/
def write? {w : Width} (m : Memory ρ) (a : Address) (v : Value w) : Option (Reply ρ Unit) := do
  if isHardwarePage a.page then
    if a.offset < scratchpadSize then
      let hardware ← m.hardware.store? .stop a.offset v
      return done { m with hardware } .empty
    else return m.writeRegister a v
  else
    match m.tables.writeEntry a with
    | none => return m.storeUnmapped a v
    | some entry =>
      let index := entry.base + a.offset
      let reported := m.report (reportedAddress w a) 1
      match entry.buffer with
      | .ram =>
        let image ← (m.ram.view (Segment.ofAddress a)).store? .wrap index v
        return done { m with ram := m.ram.modify (Segment.ofAddress a) fun _ => image } reported
      | .parallel =>
        let parallel ← m.parallel.store? .stop index v
        return done { m with parallel } reported
      | .hardware =>
        let hardware ← m.hardware.store? .stop index v
        return done { m with hardware } reported
      | .rom | .sink => return m.done (.notice (.readOnlyWrite a))

/-- The outcome of a guest load. -/
def read (m : Memory ρ) (w : Width) (a : Address) : Reply ρ (Value w) :=
  (m.read? w a).getD ⟨0, m, .empty⟩

/-- The outcome of a guest store. -/
def write {w : Width} (m : Memory ρ) (a : Address) (v : Value w) : Reply ρ Unit :=
  (m.write? a v).getD (m.done .empty)

end ConsoleMemory.Memory
