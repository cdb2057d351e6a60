import ConsoleMemory.Proofs.Coherence
import ConsoleMemory.Proofs.DirectAccess

/-!
# Sessions that may stop

A step stops where its access does, at an index outside of its buffer or at a sum that is no word. In
a session only a patch of RAM can stop one, by bytes that have no place there: the tables lead into
the buffers, and all other indices are parts of addresses.
-/

namespace ConsoleMemory

/-- A step whose bytes for RAM all have a place there. -/
def Step.InRange {ρ : Type} : Step ρ → Prop
  | .patchRam start data => start + data.size ≤ ramSize
  | _ => True

namespace Memory

variable {ρ : Type} [RegisterBank ρ]

/-- Whether the access of a step stops. Steps without an access do not. -/
def stops (m : Memory ρ) : Step ρ → Bool
  | .read w a => (m.read? w a).isNone
  | .write _ a v => (m.write? a v).isNone
  | .readRelative base disp => (m.readRelative? base disp).isNone
  | .writeRelative base disp v => (m.writeRelative? base disp v).isNone
  | .readDirect order w a => (m.readDirect? order w a).isNone
  | .writeDirect order _ a v => (m.writeDirect? order a v).isNone
  | .writeSlice a data => (m.writeSlice? a data).isNone
  | .patchRam start data => (m.patchRam? start data).isNone
  | _ => false

lemma Coherent.stops_eq_false {m : Memory ρ} (h : m.Coherent) {next : Step ρ}
    (hrange : next.InRange) : m.stops next = false := by
  cases next with
  | read w a => rw [stops, h.read?_eq, Option.isNone_some]
  | write w a v => rw [stops, h.write?_eq, Option.isNone_some]
  | readRelative base disp => rw [stops, h.readRelative?_eq, Option.isNone_some]
  | writeRelative base disp v => rw [stops, h.writeRelative?_eq, Option.isNone_some]
  | readDirect order w a => rw [stops, m.readDirect?_eq, Option.isNone_some]
  | writeDirect order w a v => rw [stops, m.writeDirect?_eq, Option.isNone_some]
  | writeSlice a data => rw [stops, m.writeSlice?_eq, Option.isNone_some]
  | patchRam start data => rw [stops, m.patchRam?_of_le hrange, Option.isNone_some]
  | _ => rfl

end Memory

namespace Session

variable {ρ : Type} [RegisterBank ρ]

/-- Does one step, unless it stops. -/
def step? (s : Session ρ) (next : Step ρ) : Option (Result ρ) :=
  if s.memory.stops next then none else some (s.step next)

/-- Does steps in order, up to one that stops. -/
def run? (s : Session ρ) : List (Step ρ) → Option (List (Result ρ))
  | [] => some []
  | first :: rest => do
    let r ← s.step? first
    return r :: (← r.session.run? rest)

lemma step?_eq {s : Session ρ} (h : s.memory.Coherent) {next : Step ρ} (hrange : next.InRange) :
    s.step? next = some (s.step next) := by
  rw [step?, h.stops_eq_false hrange]
  rfl

/-- By induction on the steps, each of which keeps the tables those of the cache state. -/
theorem run?_eq (steps : List (Step ρ)) : ∀ {s : Session ρ}, s.memory.Coherent →
    (∀ next ∈ steps, next.InRange) → s.run? steps = some (s.run steps) := by
  induction steps with
  | nil =>
    intro s _ _
    rfl
  | cons first rest ih =>
    intro s h hrange
    have hrest := ih (step_coherent h first)
      fun next hnext => hrange next (List.mem_cons_of_mem first hnext)
    rw [run?, step?_eq h (hrange first List.mem_cons_self), Option.bind_eq_bind, Option.bind_some,
      hrest]
    rfl

end Session

end ConsoleMemory
