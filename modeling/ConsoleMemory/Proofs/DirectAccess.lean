import ConsoleMemory.Proofs.Flat

/-!
# Direct accesses and guest accesses

The direct decoder and the tables take some addresses to one place: the user-segment hardware page
but for the bytes between the scratchpad and the registers, the parallel page and, for loads, the
ROM pages. There the two accesses agree while all bytes are inside the buffer. At its end the guest
access goes on with the bytes there are, and the direct access is zero or does nothing.
-/

namespace ConsoleMemory

namespace Address

end Address

namespace Region

end Region

/-! ### Whole values -/

namespace Image

variable {n : Nat} {w : Width} {start : Nat}

/-- From one image to the other a run of bytes was written whole, and nothing else. -/
def Overwrites (after before : Image n) (start : Nat) (bs : List UInt8) : Prop :=
  start + bs.length ≤ n ∧
    ∀ p, after.get p =
      if start ≤ p ∧ p < start + bs.length then bs.getD (p - start) 0 else before.get p

lemma scatter_overwrites (img : Image n) (bs : List UInt8) (h : start + bs.length ≤ n) :
    (img.scatter .stop start bs).Overwrites img start bs := by
  refine ⟨h, fun p => ?_⟩
  by_cases hin : start ≤ p ∧ p < start + bs.length
  · obtain ⟨i, rfl⟩ := Nat.exists_eq_add_of_le hin.1
    have hi : i < bs.length := by omega
    have hlast := get_scatter_of_last .stop bs img start i hi (by simp only [EndRule.place]; omega)
      (fun j _ hij => by simp only [EndRule.place]; omega)
    rw [if_pos hin, Nat.add_sub_cancel_left, List.getD_eq_getElem?_getD,
      List.getElem?_eq_getElem hi, Option.getD_some, ← hlast]
    rfl
  · rw [if_neg hin]
    apply get_scatter_of_forall_ne
    intro i hi
    simp only [EndRule.place]
    omega

section Ends

variable (hend : start + w.bytes < 2 ^ 64)

include hend

/-- A load whose end is an index never stops. -/
lemma loadWhole?_eq (img : Image n) (order : ByteOrder) :
    img.loadWhole? order w start =
      some (if start + w.bytes ≤ n then Value.ofBytes order w (img.gather .stop start w.bytes)
        else 0) := by
  rw [loadWhole?, runEnd?_of_lt hend, Option.bind_eq_bind, Option.bind_some]
  by_cases h : start + w.bytes ≤ n
  · rw [if_pos h, if_pos h, img.window?_eq .stop h]
    rfl
  · rw [if_neg h, if_neg h]
    rfl

/-- A store whose end is an index never stops. -/
lemma storeWhole?_eq (img : Image n) (order : ByteOrder) (v : Value w) :
    img.storeWhole? order start v =
      some (if start + w.bytes ≤ n then some (img.scatter .stop start (v.toBytes order))
        else none) := by
  rw [storeWhole?, runEnd?_of_lt hend, Option.bind_eq_bind, Option.bind_some]
  by_cases h : start + w.bytes ≤ n
  · rw [if_pos h, if_pos h, overwrite?_eq .stop _ img start (by rwa [v.length_toBytes])]
    rfl
  · rw [if_neg h, if_neg h]
    rfl

end Ends

end Image

namespace Memory

variable {ρ : Type}

/-- Below the direct registers a value ends inside the hardware window. -/
lemma hardware_room {w : Width} {a : Address} (h : a.offset < directHardwareLimit) :
    a.offset + w.bytes ≤ hardwareSize := by
  rw [directHardwareLimit] at h
  rw [hardwareSize]
  cases w <;> simp only [Width.bytes] <;> omega

lemma storeWindow?_eq (m : Memory ρ) {n : Nat} (window : Image n) (replace : Image n → Memory ρ)
    (order : ByteOrder) {w : Width} {start : Nat} (v : Value w) (hend : start + w.bytes < 2 ^ 64) :
    m.storeWindow? window replace order start v =
      some (if start + w.bytes ≤ n then
        done (replace (window.scatter .stop start (v.toBytes order))) .empty
      else m.done (.notice (.directWriteDropped start))) := by
  rw [storeWindow?, window.storeWhole?_eq hend, Option.map_some]
  by_cases h : start + w.bytes ≤ n
  · rw [if_pos h, if_pos h]
  · rw [if_neg h, if_neg h]

variable [RegisterBank ρ]

/-- A store makes one register write, or none without registers, and does nothing else. -/
def OnlyWritesRegister (m : Memory ρ) {w : Width} (a : Address) (v : Value w)
    (r : Reply ρ Unit) : Prop :=
  r.memory = { m with registers := m.registers.map (RegisterBank.write a v) } ∧
    r.trace.calls = if m.registers.isSome then [.write w a v] else []

/-- A direct store is whole or not at all: it writes all its bytes to the hardware window or the
parallel window, or it is one register write, or it does nothing. Nobody is told of it. -/
def StoresWhole (m : Memory ρ) (order : ByteOrder) {w : Width} (a : Address) (v : Value w)
    (r : Reply ρ Unit) : Prop :=
  r.trace.clears = [] ∧
    if a.page = Segment.hardwarePage .kuseg then
      if a.offset < directHardwareLimit then
        r.trace.calls = [] ∧ ∃ hardware, r.memory = { m with hardware } ∧
          hardware.Overwrites m.hardware a.offset (v.toBytes order)
      else m.OnlyWritesRegister a v r
    else
      r.trace.calls = [] ∧
        if a.offset + w.bytes ≤ parallelSize then
          ∃ parallel, r.memory = { m with parallel } ∧
            parallel.Overwrites m.parallel (a.toNat % 2 ^ 16) (v.toBytes order)
        else r.memory = m

variable {m : Memory ρ}

lemma onlyWritesRegister_writeRegister (m : Memory ρ) {w : Width} (a : Address) (v : Value w) :
    m.OnlyWritesRegister a v (m.writeRegister a v) ∧ (m.writeRegister a v).trace.clears = [] := by
  unfold OnlyWritesRegister writeRegister
  cases hregisters : m.registers with
  | none =>
    have hkept : m = { m with registers := none } := by rw [← hregisters]
    exact ⟨⟨hkept, rfl⟩, rfl⟩
  | some bank => exact ⟨⟨rfl, rfl⟩, rfl⟩

/-- A direct load never stops, for its index is a part of an address. -/
lemma readDirect?_eq (m : Memory ρ) (order : ByteOrder) (w : Width) (a : Address) :
    m.readDirect? order w a = some (m.readDirect order w a) := by
  have hoffset := a.offset_add_bytes_lt w
  refine (Option.getD_of_ne_none ?_ _).symm
  unfold readDirect?
  split
  · split
    · rw [m.hardware.loadWhole?_eq hoffset]
      exact Option.some_ne_none _
    · exact Option.some_ne_none _
  · split
    · rw [m.parallel.loadWhole?_eq hoffset]
      exact Option.some_ne_none _
    · rw [m.bios.loadWhole?_eq (a.mod_add_bytes_lt biosSize w)]
      exact Option.some_ne_none _

/-- A direct store never stops. -/
lemma writeDirect?_eq (m : Memory ρ) (order : ByteOrder) {w : Width} (a : Address) (v : Value w) :
    m.writeDirect? order a v = some (m.writeDirect order a v) := by
  have hoffset := a.offset_add_bytes_lt w
  refine (Option.getD_of_ne_none ?_ _).symm
  unfold writeDirect?
  split
  · split
    · rw [m.storeWindow?_eq _ _ _ _ hoffset]
      exact Option.some_ne_none _
    · exact Option.some_ne_none _
  · rw [m.storeWindow?_eq _ _ _ _ hoffset]
    exact Option.some_ne_none _

/-- Whatever the tables hold. -/
lemma storesWhole_writeDirect (m : Memory ρ) (order : ByteOrder) {w : Width} (a : Address)
    (v : Value w) : m.StoresWhole order a v (m.writeDirect order a v) := by
  have hlength := v.length_toBytes order
  have hoffset := a.offset_add_bytes_lt w
  unfold StoresWhole writeDirect writeDirect?
  by_cases hpage : a.page = Segment.hardwarePage .kuseg
  · simp only [if_pos hpage]
    by_cases hlow : a.offset < directHardwareLimit
    · have hfit := hardware_room (w := w) hlow
      simp only [if_pos hlow, m.storeWindow?_eq _ _ _ v hoffset, if_pos hfit, Option.getD_some]
      refine ⟨rfl, rfl, _, rfl, m.hardware.scatter_overwrites _ ?_⟩
      rwa [hlength]
    · simp only [if_neg hlow, Option.getD_some]
      exact (m.onlyWritesRegister_writeRegister a v).symm
  · simp only [if_neg hpage, m.storeWindow?_eq _ _ _ v hoffset, Option.getD_some]
    by_cases hfit : a.offset + w.bytes ≤ parallelSize
    · simp only [if_pos hfit]
      refine ⟨rfl, rfl, _, rfl, m.parallel.scatter_overwrites _ ?_⟩
      rwa [hlength]
    · simp only [if_neg hfit]
      exact ⟨rfl, rfl, rfl⟩

/-! ### Loads -/

end Memory

end ConsoleMemory
