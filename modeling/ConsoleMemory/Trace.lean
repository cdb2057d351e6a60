import ConsoleMemory.Notice
import ConsoleMemory.Registers

/-!
# Traces

What an operation does besides its result and its new state: the code ranges it reports as changed,
the register calls it makes and the notices it gives, each in order. Traces of successive operations
are appended.
-/

namespace ConsoleMemory

/-- A report that translated code of some words may be stale. -/
structure CodeClear where
  address : Address
  words : Nat
  deriving DecidableEq, Repr

/-- The visible side of an operation. -/
@[ext]
structure Trace where
  clears : List CodeClear := []
  calls : List RegisterCall := []
  notices : List Notice := []

namespace Trace

/-- Nothing happened. -/
def empty : Trace := {}

/-- One trace after another. -/
def append (a b : Trace) : Trace where
  clears := a.clears ++ b.clears
  calls := a.calls ++ b.calls
  notices := a.notices ++ b.notices

instance : Append Trace := ⟨append⟩

/-- A single notice. -/
def notice (n : Notice) : Trace := { notices := [n] }

/-- A single register call with its notice. -/
def call (c : RegisterCall) (n : Notice) : Trace := { calls := [c], notices := [n] }

@[simp] theorem clears_append (a b : Trace) : (a ++ b).clears = a.clears ++ b.clears := rfl

@[simp] theorem calls_append (a b : Trace) : (a ++ b).calls = a.calls ++ b.calls := rfl

@[simp] theorem notices_append (a b : Trace) : (a ++ b).notices = a.notices ++ b.notices := rfl

end Trace

end ConsoleMemory
