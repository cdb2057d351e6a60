import ConsoleMemory.Memory

/-!
# Bulk stores to RAM

A program image is copied to RAM as a whole, whatever the cache state: either all bytes fit between
the address, reduced to a RAM position, and the end of RAM, or nothing is stored.
-/

namespace ConsoleMemory.Memory

variable {ρ : Type}

/-- The aligned words touched by the bytes from `start` up to `stop`. -/
def wordsTouched (start stop : Nat) : Nat := (stop + 3) / 4 - start / 4

/-- Copies bytes to RAM and reports the words they touch. -/
def writeSlice? (m : Memory ρ) (a : Address) (data : ByteArray) :
    Option (Reply ρ (Except Fault Unit)) :=
  let start := a.toNat % ramSize
  let stop := start + data.size
  if ramSize < stop then some ⟨.error (.invalidAccess a), m, .empty⟩
  else
    let reported :=
      if data.size = 0 then .empty else m.report a.wordStart (wordsTouched start stop)
    (m.patchRam? start data).map fun memory =>
      ⟨.ok (), memory, reported ++ .notice (.sliceWritten data.size a)⟩

/-- The outcome of a bulk store. -/
def writeSlice (m : Memory ρ) (a : Address) (data : ByteArray) : Reply ρ (Except Fault Unit) :=
  (m.writeSlice? a data).getD ⟨.error (.invalidAccess a), m, .empty⟩

end ConsoleMemory.Memory
