import ConsoleMemory.Proofs.DirectAccess
import ConsoleMemory.Proofs.RomHistory
import ConsoleMemory.Proofs.Stops

/-!
# What every memory keeps

The lengths of the buffers, the zeros behind unmapped loads, and the hardware window past the
scratchpad. Guest stores reach three bytes past the scratchpad and direct stores three bytes past
the start of the direct registers, for a value may begin at the last byte before. What lies between
was put there by direct stores, and nothing was ever put behind.
-/

namespace ConsoleMemory

/-- The byte that a step puts at a position of the hardware window, if it is a direct store that
does. -/
def Step.directByte? {ρ : Type} (p : Nat) : Step ρ → Option UInt8
  | .writeDirect order _ a v =>
    if a.page = Segment.hardwarePage .kuseg ∧ a.offset < Memory.directHardwareLimit ∧
        a.offset ≤ p then
      (v.toBytes order)[p - a.offset]?
    else none
  | _ => none

/-- The buffers of a memory have the lengths they are to have, RAM in every segment. -/
structure Memory.HasLengths {ρ : Type} (m : Memory ρ) : Prop where
  ram : ∀ segment, (m.ram.view segment).bytes.size = 2 ^ 21
  parallel : m.parallel.bytes.size = 2 ^ 16
  hardware : m.hardware.bytes.size = 2 ^ 16
  bios : m.bios.bytes.size = 2 ^ 19
  sink : m.sink.bytes.size = 2 ^ 16

lemma Memory.hasLengths {ρ : Type} (m : Memory ρ) : m.HasLengths where
  ram segment := (m.ram.view segment).size_bytes
  parallel := m.parallel.size_bytes
  hardware := m.hardware.size_bytes
  bios := m.bios.size_bytes
  sink := m.sink.size_bytes

lemma Step.IsQuiet.directByte?_eq_none {ρ : Type} {next : Step ρ} (h : next.IsQuiet) (p : Nat) :
    next.directByte? p = none := by
  cases next <;> first | rfl | exact h.elim

lemma Step.directByte?_of_le {ρ : Type} (next : Step ρ) {p : Nat} (hp : 0x1003 ≤ p) :
    next.directByte? p = none := by
  cases next with
  | writeDirect order w a v =>
    simp only [directByte?, ite_eq_right_iff]
    intro h
    apply List.getElem?_eq_none
    have hw : w.bytes ≤ 4 := by cases w <;> decide
    simp only [Value.length_toBytes, Memory.directHardwareLimit] at h ⊢
    omega
  | _ => rfl

namespace Outside

variable {ρ : Type} [RegisterBank ρ]

lemma get_hardware_store {w : Width} (o : Outside ρ) (a : Address) (v : Value w) {p : Nat}
    (hp : 0x403 ≤ p) : (o.store a v).1.hardware.get p = o.hardware.get p := by
  have hspec := Region.ofAddress_spec a
  unfold store
  cases hregion : Region.ofAddress a
  case scratchpad =>
    -- a word at the last byte of the scratchpad ends before `0x403`
    have hw : w.bytes ≤ 4 := by cases w <;> decide
    rw [hregion] at hspec
    simp only [Address.offset] at hspec
    dsimp only
    rw [Image.store_eq (a.mod_add_bytes_lt hardwareSize w)]
    apply Image.get_scatter_of_forall_ne
    intro i hi
    simp only [EndRule.place, Value.length_toBytes] at hi ⊢
    simp only [scratchpadSize, pageSize, hardwareSize] at hspec ⊢
    omega
  case io => cases o.registers <;> rfl
  all_goals rfl

end Outside

namespace Memory

variable {ρ : Type} [RegisterBank ρ] {m : Memory ρ} {p : Nat}

lemma Coherent.get_hardware_write (h : m.Coherent) {w : Width} (a : Address) (v : Value w)
    (hp : 0x403 ≤ p) : (m.write a v).memory.hardware.get p = m.hardware.get p := by
  have hstore := congrArg (fun o => o.1.hardware.get p) (h.outside_write a v)
  exact hstore.trans (m.outside.get_hardware_store a v hp)

lemma Coherent.get_hardware_writeRelative (h : m.Coherent) (base : Address) (disp : Int32)
    (v : Value .word) (hp : 0x403 ≤ p) :
    (m.writeRelative base disp v).memory.hardware.get p = m.hardware.get p := by
  have hstore := congrArg (fun o => o.1.hardware.get p) (h.outside_writeRelative base disp v)
  exact hstore.trans (m.outside.get_hardware_store _ v hp)

lemma get_hardware_writeDirect (m : Memory ρ) (order : ByteOrder) {w : Width} (a : Address)
    (v : Value w) (p : Nat) :
    (m.writeDirect order a v).memory.hardware.get p =
      ((Step.writeDirect (ρ := ρ) order w a v).directByte? p).getD (m.hardware.get p) := by
  have hstores := (m.storesWhole_writeDirect order a v).2
  rw [Step.directByte?]
  by_cases hpage : a.page = Segment.hardwarePage .kuseg
  · rw [if_pos hpage] at hstores
    by_cases hlow : a.offset < directHardwareLimit
    · rw [if_pos hlow] at hstores
      obtain ⟨-, hardware, hm, -, hbytes⟩ := hstores
      rw [hm]
      dsimp only
      rw [hbytes]
      by_cases hle : a.offset ≤ p
      · by_cases hlt : p < a.offset + (v.toBytes order).length
        · have hi : p - a.offset < (v.toBytes order).length := by omega
          simp [hpage, hlow, hle, hlt, List.getElem?_eq_getElem hi]
        · have hi : (v.toBytes order).length ≤ p - a.offset := by omega
          simp [hpage, hlow, hle, hlt, List.getElem?_eq_none hi]
      · simp [hle]
    · rw [if_neg hlow] at hstores
      rw [if_neg (fun hall => hlow hall.2.1), hstores.1]
      rfl
  · rw [if_neg hpage] at hstores
    have hkept : (m.writeDirect order a v).memory.hardware = m.hardware := by
      obtain ⟨-, hparallel⟩ := hstores
      split at hparallel
      · obtain ⟨parallel, hm, -⟩ := hparallel
        rw [hm]
      · rw [hparallel]
    rw [if_neg (fun hall => hpage hall.1), hkept]
    rfl

end Memory

namespace Session

variable {ρ : Type} [RegisterBank ρ] {p : Nat}

/-- Past the reach of guest stores a step changes only the bytes it stores directly. -/
theorem step_hardware {s : Session ρ} (h : s.memory.Coherent) (next : Step ρ) (hp : 0x403 ≤ p) :
    (s.step next).session.memory.hardware.get p =
      (next.directByte? p).getD (s.memory.hardware.get p) := by
  by_cases hquiet : next.IsQuiet
  · obtain ⟨ram, registers, listening, -, hm⟩ := s.step_quiet hquiet
    rw [hquiet.directByte?_eq_none, hm]
    rfl
  · cases next with
    | write w a v => exact h.get_hardware_write a v hp
    | writeRelative base disp v => exact h.get_hardware_writeRelative base disp v hp
    | writeDirect order w a v => exact s.memory.get_hardware_writeDirect order a v p
    | reset =>
      have hm := s.memory.reset_memory_eq s.settings (s.files.list s.settings.biosDir)
      exact congrArg (fun m => m.hardware.get p) hm
    | loadImage path =>
      obtain ⟨bios, hm⟩ := s.memory.loadImage_memory path (s.files.openPath path)
      exact congrArg (fun m => m.hardware.get p) hm
    | _ => exact absurd trivial hquiet

/-- By induction on the steps: the last direct store to a byte counts. -/
theorem after_hardware (hp : 0x403 ≤ p) (steps : List (Step ρ)) : ∀ {s : Session ρ},
    s.memory.Coherent →
      (s.after steps).memory.hardware.get p =
        ((steps.filterMap (Step.directByte? p)).getLast?).getD (s.memory.hardware.get p) := by
  induction steps with
  | nil =>
    intro s _
    rfl
  | cons next rest ih =>
    intro s h
    have hrest := ih (step_coherent h next)
    rw [step_hardware h next hp] at hrest
    rw [after, List.foldl_cons, ← after, hrest]
    cases hbyte : next.directByte? p with
    | none => rw [List.filterMap_cons_none hbyte, Option.getD_none]
    | some b =>
      rw [List.filterMap_cons_some hbyte, List.getLast?_cons, Option.getD_some, Option.getD_some]

/-- In every session the buffers keep their lengths and unmapped loads see zeros. From `0x403` on,
which no guest store reaches, a byte of the hardware window is the last one that was stored there
directly, or zero, and a step that stores none there leaves it alone; from `0x1003` on all are
zero. While the bytes patched into RAM have their place there, no index of any step is ever outside
of its buffer. -/
theorem representation_kept (settings : Settings) (files : Files) (canMap : Bool)
    (steps : List (Step ρ)) :
    let first := (start ρ settings files canMap).1
    let s := first.after steps
    s.memory.HasLengths ∧
    (∀ p, s.memory.sink.get p = 0) ∧
    (∀ p, 0x403 ≤ p → s.memory.hardware.get p =
      ((steps.filterMap (Step.directByte? p)).getLast?).getD 0) ∧
    (∀ (next : Step ρ) p, 0x403 ≤ p → next.directByte? p = none →
      (s.step next).session.memory.hardware.get p = s.memory.hardware.get p) ∧
    (∀ p, 0x1003 ≤ p → s.memory.hardware.get p = 0) ∧
    ((∀ next ∈ steps, next.InRange) → first.run? steps = some (first.run steps)) := by
  intro first s
  have hstart : first.memory.Coherent := start_coherent settings files canMap
  have h : s.memory.Coherent := after_coherent steps hstart
  have hbyte : ∀ p, 0x403 ≤ p → s.memory.hardware.get p =
      ((steps.filterMap (Step.directByte? p)).getLast?).getD 0 := by
    intro p hp
    have hzero : first.memory.hardware.get p = 0 := Image.get_zero p
    rw [after_hardware hp steps hstart, hzero]
  refine ⟨s.memory.hasLengths, ?_, hbyte, ?_, ?_, run?_eq steps hstart⟩
  · intro p
    rw [h.sink, Image.get_zero]
  · intro next p hp hnone
    rw [step_hardware h next hp, hnone, Option.getD_none]
  · intro p hp
    have hnone : steps.filterMap (Step.directByte? p) = [] :=
      List.filterMap_eq_nil_iff.2 fun next _ => next.directByte?_of_le hp
    rw [hbyte p (by omega), hnone]
    rfl

/-- A direct word at the last byte before the direct registers ends where the zeros start. -/
theorem representation_kept_at_limit :
    let steps : List (Step Empty) := [.writeDirect .little .word 0x1F800FFF#32 0xAABBCCDD]
    let first := (start Empty {} {} false).1
    (∀ next ∈ steps, next.InRange) ∧ first.run? steps = some (first.run steps) ∧
      (first.after steps).memory.hardware.get 0x1002 = 0xAA ∧
      (first.after steps).memory.hardware.get 0x1003 = 0 := by
  intro steps
  have hrange : ∀ next ∈ steps, next.InRange := by simp [steps, Step.InRange]
  obtain ⟨-, -, hbyte, -, hzero, hrun⟩ := representation_kept {} {} false steps
  have hlast : ((steps.filterMap (Step.directByte? 0x1002)).getLast?).getD 0 = 0xAA := by cbv
  exact ⟨hrange, hrun hrange, (hbyte 0x1002 (by decide)).trans hlast, hzero 0x1003 (by decide)⟩

end Session

end ConsoleMemory
