import ConsoleMemory.Proofs.ByteAccess
import ConsoleMemory.Proofs.Coherence

/-!
# A machine without tables

The reference for guest accesses: bytes by position in four buffers, and an access told by the
region of its address alone. Every memory that a session leads to answers guest loads and stores as
this machine does.
-/

namespace ConsoleMemory

/-- A memory without tables: each buffer as its bytes by position. -/
structure Flat (ρ : Type) where
  ram : Nat → UInt8
  parallel : Nat → UInt8
  hardware : Nat → UInt8
  bios : Nat → UInt8
  cache : CacheState
  control : BitVec 32
  registers : Option ρ
  listening : Bool

namespace Flat

variable {ρ : Type}

/-- What an access gives: its value, the machine afterwards, the register calls and the reports. -/
structure Outcome (ρ α : Type) where
  value : α
  machine : Flat ρ
  calls : List RegisterCall := []
  clears : List CodeClear := []

/-- The value whose byte `i`, least significant first, is `byte i`. -/
def compose (w : Width) (byte : Nat → UInt8) : Value w :=
  BitVec.ofNat w.bits ((List.range w.bytes).map fun i => (byte i).toNat * 256 ^ i).sum

/-- Puts byte `i` of a value at position `place i` of a buffer; there is nothing past its end. -/
def put {w : Width} (size : Nat) (cells : Nat → UInt8) (place : Nat → Nat) (v : Value w) :
    Nat → UInt8 :=
  fun p =>
    match (List.range w.bytes).find? fun i => place i == p with
    | some i => if p < size then UInt8.ofNat (v.toNat / 256 ^ i) else cells p
    | none => cells p

/-- The word of code that a store changes: the aligned word around a narrow value, and for a word
the address as it is. -/
def changedWord (w : Width) (a : Address) : Address :=
  if w = .word then a else a - BitVec.ofNat 32 (a.toNat % 4)

variable (f : Flat ρ)

/-- The report of one changed word. -/
def report (a : Address) : List CodeClear := if f.listening then [⟨a, 1⟩] else []

/-- A store that is dropped. While stores to RAM are off a dropped word is reported all the same. -/
def drop (w : Width) (a : Address) : Outcome ρ Unit where
  value := ()
  machine := f
  clears := if w = .word ∧ f.cache = .writeDisabled then f.report a else []

variable [RegisterBank ρ]

/-- One register read, or zero without registers. -/
def readRegister (w : Width) (a : Address) : Outcome ρ (Value w) :=
  match f.registers with
  | none => ⟨0, f, [], []⟩
  | some bank =>
    let answered := RegisterBank.read w a bank
    ⟨answered.1, { f with registers := some answered.2 }, [.read w a], []⟩

/-- One register write, or nothing without registers. -/
def writeRegister {w : Width} (a : Address) (v : Value w) : Outcome ρ Unit :=
  match f.registers with
  | none => ⟨(), f, [], []⟩
  | some bank =>
    ⟨(), { f with registers := some (RegisterBank.write a v bank) }, [.write w a v], []⟩

/-- A guest load. -/
def load (w : Width) (a : Address) : Outcome ρ (Value w) :=
  match Region.ofAddress a with
  | .ram => ⟨compose w fun i => f.ram ((a.toNat + i) % 2 ^ 21), f, [], []⟩
  | .parallel => ⟨compose w fun i => f.parallel (a.toNat % 2 ^ 16 + i), f, [], []⟩
  | .scratchpad => ⟨compose w fun i => f.hardware (a.toNat % 2 ^ 16 + i), f, [], []⟩
  | .bios => ⟨compose w fun i => f.bios (a.toNat % 2 ^ 19 + i), f, [], []⟩
  | .cacheControl | .unmapped => ⟨0, f, [], []⟩
  | .io => f.readRegister w a

/-- A guest store. -/
def store {w : Width} (a : Address) (v : Value w) : Outcome ρ Unit :=
  match Region.ofAddress a with
  | .ram =>
    if f.cache = .writeEnabled then
      let ram := put (2 ^ 21) f.ram (fun i => (a.toNat + i) % 2 ^ 21) v
      ⟨(), { f with ram }, [], f.report (changedWord w a)⟩
    else f.drop w a
  | .parallel =>
    let parallel := put (2 ^ 16) f.parallel (fun i => a.toNat % 2 ^ 16 + i) v
    ⟨(), { f with parallel }, [], f.report (changedWord w a)⟩
  | .scratchpad =>
    let hardware := put (2 ^ 16) f.hardware (fun i => a.toNat % 2 ^ 16 + i) v
    ⟨(), { f with hardware }, [], []⟩
  | .io => f.writeRegister a v
  | .cacheControl =>
    if w = .word then
      let control := BitVec.ofNat 32 v.toNat
      ⟨(), { f with cache := f.cache.afterControl control, control }, [], []⟩
    else f.drop w a
  | .bios | .unmapped => f.drop w a

lemma compose_eq_ofBytes (w : Width) (byte : Nat → UInt8) :
    compose w byte = Value.ofBytes guestOrder w ((List.range w.bytes).map byte) := by
  rw [compose, ← littleEndian_map_range]
  rfl

end Flat

variable {ρ : Type}

/-- A memory without its tables. -/
def Memory.flat (m : Memory ρ) : Flat ρ where
  ram := (m.ram.view .kuseg).get
  parallel := m.parallel.get
  hardware := m.hardware.get
  bios := m.bios.get
  cache := m.cache
  control := m.control
  registers := m.registers
  listening := m.listening

/-- A reply without the tables and notices. -/
def Reply.flat {α : Type} (r : Reply ρ α) : Flat.Outcome ρ α :=
  ⟨r.value, r.memory.flat, r.trace.calls, r.trace.clears⟩

lemma Reply.flat_value {α : Type} (r : Reply ρ α) : r.flat.value = r.value := rfl

/-! ### Bytes -/

namespace Image

variable {n : Nat}

variable [NeZero n] {w : Width} {start : Nat} (hend : start + w.bytes < 2 ^ 64)

include hend

lemma load_eq_compose (img : Image n) (rule : EndRule) :
    img.load rule w start = Flat.compose w fun i => img.get (rule.place n (start + i)) := by
  rw [img.load_eq hend, Flat.compose_eq_ofBytes, gather]

/-- A store puts every byte where a load finds it. No two bytes of it meet, for an image is longer
than a value. -/
lemma get_store (hw : w.bytes ≤ n) (img : Image n) (rule : EndRule) (v : Value w) :
    (img.store rule start v).get =
      Flat.put n img.get (fun i => rule.place n (start + i)) v := by
  have hlength : (v.toBytes guestOrder).length = w.bytes := Value.length_toBytes guestOrder v
  funext p
  rw [store_eq hend, Flat.put]
  cases hfind : (List.range w.bytes).find? fun i => rule.place n (start + i) == p with
  | none =>
    have hmiss : ∀ i < (v.toBytes guestOrder).length, rule.place n (start + i) ≠ p := by
      intro i hi
      rw [hlength] at hi
      have h := List.find?_eq_none.1 hfind i (List.mem_range.2 hi)
      simpa using h
    exact get_scatter_of_forall_ne rule _ img start p hmiss
  | some i =>
    have hi : i < w.bytes := List.mem_range.1 (List.mem_of_find?_eq_some hfind)
    have hplace : rule.place n (start + i) = p := by simpa using List.find?_some hfind
    have hbyte : i < (v.toBytes guestOrder).length := by rwa [hlength]
    dsimp only
    by_cases hp : p < n
    -- no later byte of the value lands on `p`
    · have hlast := get_scatter_of_last rule (v.toBytes guestOrder) img start i hbyte
        (by rwa [hplace]) (fun j hj hij => place_add_ne rule hw (by rwa [← hlength]) hi hij.ne')
      rw [hplace] at hlast
      rw [if_pos hp, hlast, v.getElem_toBytes, Value.byte_eq_ofNat]
    · rw [if_neg hp, get_of_le (Nat.not_lt.1 hp), get_of_le (Nat.not_lt.1 hp)]

end Image

/-! ### Refinement -/

lemma place_wrap_mod (n start i : Nat) :
    EndRule.place .wrap n (start % n + i) = (start + i) % n := Nat.mod_add_mod start n i

namespace Memory

lemma reportedAddress_eq (w : Width) (a : Address) :
    reportedAddress w a = Flat.changedWord w a := by
  have hword : a.wordStart = a - BitVec.ofNat 32 (a.toNat % 4) := by
    have hlt := a.isLt
    apply BitVec.eq_of_toNat_eq
    rw [a.toNat_wordStart, BitVec.toNat_sub, BitVec.toNat_ofNat]
    omega
  cases w with
  | word => rfl
  | byte | half => exact hword

lemma clears_report (m : Memory ρ) (a : Address) : (m.report a 1).clears = m.flat.report a := by
  have hlistening : m.flat.listening = m.listening := rfl
  rw [report, Flat.report, hlistening]
  split <;> rfl

lemma calls_report (m : Memory ρ) (a : Address) (words : Nat) : (m.report a words).calls = [] := by
  unfold report
  split <;> rfl

lemma done_report_flat (m n : Memory ρ) (a : Address) :
    (n.done (m.report a 1)).flat = ⟨(), n.flat, [], m.flat.report a⟩ := by
  rw [← m.clears_report, ← m.calls_report a 1]
  rfl

lemma quiet_storeControl (m : Memory ρ) (value : BitVec 32) :
    (m.storeControl value).trace.calls = [] ∧ (m.storeControl value).trace.clears = [] := by
  unfold storeControl
  dsimp only
  split
  · split <;> exact ⟨rfl, rfl⟩
  · split
    · split <;> exact ⟨rfl, rfl⟩
    · exact ⟨rfl, rfl⟩

lemma Coherent.storeControl_flat {m : Memory ρ} (h : m.Coherent) (value : BitVec 32) :
    (m.storeControl value).flat =
      ⟨(), { m.flat with cache := m.flat.cache.afterControl value, control := value }, [], []⟩ := by
  obtain ⟨hcalls, hclears⟩ := m.quiet_storeControl value
  rw [Reply.flat, h.storeControl_memory, hcalls, hclears]
  rfl

lemma storeUnmapped_flat (m : Memory ρ) {w : Width} {a : Address} (v : Value w)
    (h : ¬(w = .word ∧ a = cacheControlAddress)) :
    (m.storeUnmapped a v).flat = m.flat.drop w a := by
  have hcache : m.isWriteEnabled = false ↔ m.flat.cache = .writeDisabled := by
    have heq : m.flat.cache = m.cache := rfl
    rw [isWriteEnabled, heq]
    cases m.cache <;> decide
  unfold storeUnmapped Flat.drop
  rw [if_neg h]
  dsimp only
  by_cases hreport : w = .word ∧ m.isWriteEnabled = false
  · have hdrop : w = .word ∧ m.flat.cache = .writeDisabled := ⟨hreport.1, hcache.1 hreport.2⟩
    rw [if_pos hreport, if_pos hdrop, ← m.clears_report]
    unfold Reply.flat
    simp only [done, Trace.notice, Trace.calls_append, Trace.clears_append, calls_report,
      List.nil_append]
  · have hkeep : ¬(w = .word ∧ m.flat.cache = .writeDisabled) :=
      fun hdrop => hreport ⟨hdrop.1, hcache.2 hdrop.2⟩
    rw [if_neg hreport, if_neg hkeep]
    rfl

/-- A store that reaches no buffer is dropped unless the cache control register takes it. -/
lemma storeUnmapped_flat_of_region (m : Memory ρ) {w : Width} {a : Address} (v : Value w)
    (h : Region.ofAddress a ≠ .cacheControl) :
    (m.storeUnmapped a v).flat = m.flat.drop w a := by
  apply m.storeUnmapped_flat v
  rintro ⟨-, rfl⟩
  exact h (by decide)

/-- The cache control register takes words alone. -/
lemma Coherent.storeUnmapped_flat_control {m : Memory ρ} (h : m.Coherent) {w : Width}
    (v : Value w) :
    (m.storeUnmapped cacheControlAddress v).flat =
      if w = .word then
        let control := BitVec.ofNat 32 v.toNat
        ⟨(), { m.flat with cache := m.flat.cache.afterControl control, control }, [], []⟩
      else m.flat.drop w cacheControlAddress := by
  by_cases hword : w = .word
  · rw [storeUnmapped, if_pos ⟨hword, rfl⟩, if_pos hword, h.storeControl_flat, v.toWord_eq]
  · rw [m.storeUnmapped_flat v (fun hw => hword hw.1), if_neg hword]

/-- The bytes of RAM after a store to it. -/
lemma get_view_modify_store (m : Memory ρ) (segment : Segment) {w : Width} (a : Address)
    (v : Value w) :
    ((m.ram.modify segment fun image => image.store .wrap (a.toNat % ramSize) v).view
      .kuseg).get = Flat.put (2 ^ 21) m.flat.ram (fun i => (a.toNat + i) % 2 ^ 21) v := by
  have hw : w.bytes ≤ ramSize := by cases w <;> decide
  rw [Ram.view_modify, Image.get_store (a.mod_add_bytes_lt ramSize w) hw]
  simp only [place_wrap_mod]
  rfl

variable [RegisterBank ρ] {m : Memory ρ}

lemma readRegister_flat (m : Memory ρ) (w : Width) (a : Address) :
    (m.readRegister w a).flat = m.flat.readRegister w a := by
  have hregisters : m.flat.registers = m.registers := rfl
  rw [readRegister, Flat.readRegister, hregisters]
  cases m.registers <;> rfl

lemma writeRegister_flat (m : Memory ρ) {w : Width} (a : Address) (v : Value w) :
    (m.writeRegister a v).flat = m.flat.writeRegister a v := by
  have hregisters : m.flat.registers = m.registers := rfl
  rw [writeRegister, Flat.writeRegister, hregisters]
  cases m.registers <;> rfl

/-- A guest load of a coherent memory is one of the machine without tables. -/
lemma Coherent.read_flat (h : m.Coherent) (w : Width) (a : Address) :
    (m.read w a).flat = m.flat.load w a := by
  rw [h.read_eq, readByRegion]
  unfold Flat.load
  cases Region.ofAddress a
  case ram =>
    dsimp only
    rw [Image.load_eq_compose (a.mod_add_bytes_lt ramSize w), m.ram.view_congr _ .kuseg]
    simp only [place_wrap_mod]
    rfl
  case parallel =>
    dsimp only
    rw [Image.load_eq_compose (a.mod_add_bytes_lt parallelSize w)]
    rfl
  case scratchpad =>
    dsimp only
    rw [Image.load_eq_compose (a.mod_add_bytes_lt hardwareSize w)]
    rfl
  case io => exact m.readRegister_flat w a
  case bios =>
    dsimp only
    rw [Image.load_eq_compose (a.mod_add_bytes_lt biosSize w)]
    rfl
  case cacheControl => rfl
  case unmapped => rfl

/-- A guest store to a coherent memory is one to the machine without tables. -/
lemma Coherent.write_flat (h : m.Coherent) {w : Width} (a : Address) (v : Value w) :
    (m.write a v).flat = m.flat.store a v := by
  have hw : w.bytes ≤ 4 := by cases w <;> decide
  have hspec := Region.ofAddress_spec a
  rw [h.write_eq, writeByRegion]
  unfold Flat.store
  cases hregion : Region.ofAddress a
  case ram =>
    have hcache : m.flat.cache = m.cache := rfl
    dsimp only
    rw [hcache]
    split
    · rw [done_report_flat, reportedAddress_eq, ← m.get_view_modify_store (Segment.ofAddress a)]
      rfl
    · exact m.storeUnmapped_flat_of_region v (by rw [hregion]; decide)
  case parallel =>
    have hput := Image.get_store (a.mod_add_bytes_lt parallelSize w)
      (by rw [parallelSize]; omega) m.parallel .stop v
    dsimp only
    rw [done_report_flat, reportedAddress_eq]
    unfold flat
    dsimp only
    rw [hput]
    rfl
  case scratchpad =>
    have hput := Image.get_store (a.mod_add_bytes_lt hardwareSize w)
      (by rw [hardwareSize]; omega) m.hardware .stop v
    unfold Reply.flat flat done
    dsimp only
    rw [hput]
    rfl
  case io => exact m.writeRegister_flat a v
  case cacheControl =>
    rw [hregion] at hspec
    obtain rfl := hspec.2
    exact h.storeUnmapped_flat_control v
  case bios | unmapped => exact m.storeUnmapped_flat_of_region v (by rw [hregion]; decide)

/-- Every memory that a session leads to answers guest accesses as the machine without tables: with
the same values, register calls and reports, and to the same machine. A load changes at most the
state of the registers. -/
theorem guest_refines_flat (hm : m.Reachable) {w : Width} (a : Address) (v : Value w) :
    (m.read w a).flat = m.flat.load w a ∧
      (∃ registers, (m.read w a).memory = { m with registers }) ∧
      (m.write a v).flat = m.flat.store a v :=
  ⟨hm.coherent.read_flat w a, m.read_memory w a, hm.coherent.write_flat a v⟩

/-- A half at the last byte of RAM has its high byte at the first. -/
theorem guest_refines_flat_at_end :
    let s := (Session.start Empty {} {} false).1.after [.write .word 0x801FFFFE#32 0x11223344#32]
    s.memory.Reachable ∧
      (s.memory.read .half 0x1FFFFF#32).value =
        BitVec.ofNat 16
          ((s.memory.flat.ram 0x1FFFFF).toNat + (s.memory.flat.ram 0).toNat * 256) ∧
      (s.memory.write (w := .half) 0x1FFFFF#32 0xBEEF#16).flat =
        s.memory.flat.store (w := .half) 0x1FFFFF#32 0xBEEF#16 := by
  intro s
  have hm : s.memory.Reachable :=
    ⟨{}, {}, false, [.write .word 0x801FFFFE#32 0x11223344#32], rfl⟩
  obtain ⟨hread, -, hwrite⟩ := guest_refines_flat (w := .half) hm 0x1FFFFF#32 0xBEEF#16
  have hregion : Region.ofAddress 0x1FFFFF#32 = .ram := by decide
  refine ⟨hm, ?_, hwrite⟩
  have hload : ∀ f : Flat Empty, (f.load .half 0x1FFFFF#32).value =
      BitVec.ofNat 16 ((f.ram 0x1FFFFF).toNat + (f.ram 0).toNat * 256) := by
    intro f
    have hsum :
        ((List.range 2).map fun i => (f.ram ((0x1FFFFF + i) % 2 ^ 21)).toNat * 256 ^ i).sum =
          (f.ram 0x1FFFFF).toNat + (f.ram 0).toNat * 256 := by
      simp [List.range_succ]
    rw [Flat.load, hregion, ← hsum]
    rfl
  rw [← hload, ← hread, Reply.flat_value]

end Memory

end ConsoleMemory
