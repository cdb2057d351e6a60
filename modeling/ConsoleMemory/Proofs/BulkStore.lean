import Mathlib.Order.Bounds.Basic
import Mathlib.Order.Interval.Set.Basic
import ConsoleMemory.Proofs.CodeReports

/-!
# Bulk stores and byte stores

A bulk store puts a run of bytes into RAM whatever the cache state, or does nothing at all. What it
puts there is what single byte stores put there while stores to RAM are on, one for each byte of the
run, in any order and through any of the addresses that show the byte.
-/

namespace ConsoleMemory

namespace Image

variable {n : Nat} {ι : Type}

/-- Stores of bytes where the position tells the byte, so that their order does not matter. -/
lemma get_foldl_set (place : ι → Nat) (byte : ι → UInt8) {p : Nat} {b : UInt8} (hp : p < n)
    (order : List ι) : ∀ img : Image n, (∀ i ∈ order, place i = p → byte i = b) →
      (order.foldl (fun img i => img.set (place i) (byte i)) img).get p =
        if ∃ i ∈ order, place i = p then b else img.get p := by
  induction order with
  | nil =>
    intro img _
    simp
  | cons i rest ih =>
    intro img hbyte
    have hrest := ih (img.set (place i) (byte i))
      (fun j hj => hbyte j (List.mem_cons_of_mem i hj))
    rw [List.foldl_cons, hrest, get_set]
    by_cases hlater : ∃ j ∈ rest, place j = p
    · obtain ⟨j, hj, hplace⟩ := hlater
      rw [if_pos ⟨j, hj, hplace⟩, if_pos ⟨j, List.mem_cons_of_mem i hj, hplace⟩]
    · rw [if_neg hlater]
      by_cases hfirst : place i = p
      · rw [if_pos ⟨hfirst, hfirst ▸ hp⟩, if_pos ⟨i, List.mem_cons_self, hfirst⟩]
        exact hbyte i List.mem_cons_self hfirst
      · have hmiss : ¬∃ j ∈ i :: rest, place j = p := by
          rintro ⟨j, hj, hplace⟩
          rcases List.mem_cons.1 hj with rfl | hj
          · exact hfirst hplace
          · exact hlater ⟨j, hj, hplace⟩
        rw [if_neg (fun hset => hfirst hset.1), if_neg hmiss]

end Image

/-- A byte as a value. -/
def byteValue (b : UInt8) : Value .byte := b.toBitVec

lemma Image.store_byteValue {n : Nat} [NeZero n] (img : Image n) (rule : EndRule) {start : Nat}
    (hend : start + Width.byte.bytes < 2 ^ 64) (b : UInt8) :
    img.store rule start (byteValue b) = img.set (rule.place n start) b := by
  have hbytes : (byteValue b).toBytes guestOrder = [UInt8.ofNat b.toNat] := rfl
  rw [store_eq hend, hbytes, UInt8.ofNat_toNat]
  rfl

/-! ### One byte after another -/

namespace Session

variable {ρ : Type} [RegisterBank ρ] {ι : Type}

lemma after_append (s : Session ρ) (first later : List (Step ρ)) :
    s.after (first ++ later) = (s.after first).after later := List.foldl_append

lemma after_control_ram {s : Session ρ} (h : s.memory.Coherent) (v : Value .word) :
    (s.after [.write .word cacheControlAddress v]).memory.ram = s.memory.ram := by
  have hwrite : (s.memory.write cacheControlAddress v).memory.ram = s.memory.ram := by
    rw [h.write_control, h.storeControl_memory]
  exact hwrite

/-- Stores of single bytes. -/
def byteStores (place : ι → Address) (byte : ι → UInt8) (order : List ι) : List (Step ρ) :=
  order.map fun i => .write .byte (place i) (byteValue (byte i))

lemma step_byte {s : Session ρ} (h : s.memory.Coherent) (hcache : s.memory.cache = .writeEnabled)
    {a : Address} (ha : Region.ofAddress a = .ram) (b : UInt8) :
    (s.step (.write .byte a (byteValue b))).session.memory =
      { s.memory with
        ram := s.memory.ram.modify .kuseg fun image => image.set (a.toNat % ramSize) b } := by
  have hstore := h.write_ram (byteValue b) ((Region.ofAddress_eq_ram_iff a).1 ha) hcache
  have hmemory := congrArg Reply.memory hstore
  refine hmemory.trans ?_
  simp only [Memory.done, Image.store_byteValue _ _ (a.mod_add_bytes_lt ramSize .byte), EndRule.place, Nat.mod_mod,
    s.memory.ram.modify_congr (Segment.ofAddress a) .kuseg]

/-- By induction on the stores: each leaves stores to RAM on and changes one byte of RAM. -/
lemma after_byteStores (place : ι → Address) (byte : ι → UInt8)
    (hplace : ∀ i, Region.ofAddress (place i) = .ram) (order : List ι) :
    ∀ {s : Session ρ}, s.memory.Coherent → s.memory.cache = .writeEnabled →
      (s.after (byteStores place byte order)).memory =
        { s.memory with
          ram := s.memory.ram.modify .kuseg fun image =>
            order.foldl (fun img i => img.set ((place i).toNat % ramSize) (byte i)) image } := by
  induction order with
  | nil =>
    intro s _ _
    have hsame : (s.memory.ram.modify .kuseg fun image => image) = s.memory.ram := by
      cases s.memory.ram <;> rfl
    simp only [List.foldl_nil, hsame]
    rfl
  | cons i rest ih =>
    intro s h hcache
    have hfirst := step_byte h hcache (hplace i) (byte i)
    have hopen : (s.step (.write .byte (place i) (byteValue (byte i)))).session.memory.cache =
        .writeEnabled := by
      rw [hfirst]
      exact hcache
    have hrest := ih (step_coherent h (.write .byte (place i) (byteValue (byte i)))) hopen
    rw [hfirst] at hrest
    refine hrest.trans ?_
    simp only [Ram.modify_modify, List.foldl_cons]

end Session

/-! ### The run as a whole -/

namespace Memory

variable {ρ : Type}

lemma wordsTouched_isLeast {start count : Nat} (hcount : count ≠ 0) :
    IsLeast {w | Set.Ico start (start + count) ⊆ Set.Ico (start / 4 * 4) (start / 4 * 4 + 4 * w)}
      (wordsTouched start (start + count)) := by
  constructor
  · rintro p ⟨hlow, hhigh⟩
    rw [wordsTouched, Set.mem_Ico]
    omega
  · intro w hw
    have hlast : start + count - 1 ∈ Set.Ico start (start + count) := by
      rw [Set.mem_Ico]
      omega
    have hin := hw hlast
    rw [Set.mem_Ico] at hin
    rw [wordsTouched]
    omega

/-- A bulk store is a patch of RAM that reports the words of the run. -/
lemma writeSlice_of_fits (m : Memory ρ) {a : Address} {data : ByteArray}
    (h : a.toNat % ramSize + data.size ≤ ramSize) :
    (m.writeSlice a data).value = .ok () ∧
      (m.writeSlice a data).memory =
        { m with ram := m.ram.modify .kuseg fun image => image.patch (a.toNat % ramSize) data } ∧
      (m.writeSlice a data).trace.clears =
        if m.listening = true ∧ data.size ≠ 0 then
          [⟨a.wordStart, wordsTouched (a.toNat % ramSize) (a.toNat % ramSize + data.size)⟩]
        else [] := by
  rw [m.writeSlice_of_le h]
  refine ⟨rfl, rfl, ?_⟩
  rw [Trace.clears_append, report]
  by_cases hempty : data.size = 0
  · rw [if_pos hempty, if_neg (fun hboth => hboth.2 hempty)]
    rfl
  · rw [if_neg hempty]
    cases m.listening <;> simp [hempty, Trace.empty, Trace.notice]

/-- Stores of the bytes of a run, each at least once, leave what a patch leaves. -/
lemma foldl_set_eq_patch (image : Image ramSize) {start : Nat} {data : ByteArray}
    {place : Fin data.size → Nat}
    (hplace : ∀ i, place i = start + i) {order : List (Fin data.size)} (horder : ∀ i, i ∈ order) :
    order.foldl (fun img i => img.set (place i) (data.get i i.isLt)) image =
      image.patch start data := by
  apply Image.ext_get
  intro p hp
  rw [Image.get_patch]
  by_cases hin : start ≤ p ∧ p < start + data.size ∧ p < ramSize
  · have hbyte : ∀ i ∈ order, place i = p →
        data.get i i.isLt = data.get (p - start) (by omega) := by
      rintro i - hi
      rw [hplace i] at hi
      have hindex : i = p - start := by omega
      congr 1
    rw [Image.get_foldl_set place _ hp order image hbyte, dif_pos hin]
    apply if_pos
    refine ⟨⟨p - start, by omega⟩, horder _, ?_⟩
    rw [hplace]
    dsimp only
    omega
  · have hmiss : ∀ i ∈ order, place i = p → data.get i i.isLt = image.get p := by
      rintro i - hi
      have hlt := i.isLt
      rw [hplace i] at hi
      omega
    rw [Image.get_foldl_set place _ hp order image hmiss, dif_neg hin, ite_self]

variable [RegisterBank ρ]

/-- A bulk store whose run ends past RAM is refused and does nothing. Any other puts the run into
RAM and changes nothing else, whatever the cache state. While stores to RAM are on, single stores of
the bytes, in any order and each to any address that shows its byte, leave the same RAM. An empty
run is not reported; for any other there is one report, from the word of the address on, of the
least number of words that hold the run. -/
theorem writeSlice_stores_run (m : Memory ρ) (a : Address) (data : ByteArray) :
    let start := a.toNat % ramSize
    let r := m.writeSlice a data
    (ramSize < start + data.size →
      r.value = .error (.invalidAccess a) ∧ r.memory = m ∧ r.trace.clears = []) ∧
    (start + data.size ≤ ramSize →
      r.value = .ok () ∧
      r.memory = { m with ram := r.memory.ram } ∧
      (∀ segment p, (r.memory.ram.view segment).get p =
        if h : start ≤ p ∧ p < start + data.size then data.get (p - start) (by omega)
        else (m.ram.view segment).get p) ∧
      (∀ (t : Session ρ) (place : Fin data.size → Address) (order : List (Fin data.size)),
        t.memory.Reachable → t.memory.isWriteEnabled = true → t.memory.ram = m.ram →
        (∀ i, Region.ofAddress (place i) = .ram ∧ (place i).toNat % ramSize = start + i) →
        (∀ i, i ∈ order) →
          (t.after (Session.byteStores place (fun i => data.get i i.isLt) order)).memory =
            { t.memory with ram := r.memory.ram }) ∧
      r.trace.clears =
        (if m.listening = true ∧ data.size ≠ 0 then
          [⟨a.wordStart, wordsTouched start (start + data.size)⟩]
        else []) ∧
      (data.size ≠ 0 →
        IsLeast {w | Set.Ico start (start + data.size) ⊆
          Set.Ico (start / 4 * 4) (start / 4 * 4 + 4 * w)}
          (wordsTouched start (start + data.size)))) := by
  intro start r
  constructor
  · intro hpast
    have hr : r = ⟨.error (.invalidAccess a), m, .empty⟩ := m.writeSlice_of_lt hpast
    rw [hr]
    exact ⟨rfl, rfl, rfl⟩
  · intro hfit
    obtain ⟨hvalue, hmemory, hclears⟩ := m.writeSlice_of_fits hfit
    have hram : r.memory.ram = m.ram.modify .kuseg fun image => image.patch start data :=
      congrArg Memory.ram hmemory
    refine ⟨hvalue, ?_, ?_, ?_, hclears, wordsTouched_isLeast⟩
    · rw [hram]
      exact hmemory
    · intro segment p
      rw [hram, Ram.view_modify, Image.get_patch_of_le _ hfit, m.ram.view_congr segment .kuseg]
    · intro t place order ht hopen hsame hplace horder
      have hcache : t.memory.cache = .writeEnabled := of_decide_eq_true hopen
      have hrun := Session.after_byteStores place (fun i => data.get i i.isLt)
        (fun i => (hplace i).1) order ht.coherent hcache
      have hfold := funext fun image =>
        foldl_set_eq_patch image (fun i => (hplace i).2) horder
      rw [hrun, hram, hsame, hfold]

/-- Five bytes up to the end of RAM while stores to it are off, and the same bytes one by one, from
the last of them on, through the second image of another segment after stores were switched on. -/
theorem writeSlice_stores_run_to_end :
    let s := (Session.start Empty {} {} false).1.after
      [.write .word cacheControlAddress 0x800#32, .attachListener]
    let t := s.after [.write .word cacheControlAddress 0#32]
    let data : ByteArray := ⟨#[1, 2, 3, 4, 5]⟩
    let place : Fin data.size → Address := fun i => BitVec.ofNat 32 (0xA03FFFFB + i)
    let order := (List.finRange data.size).reverse
    let stores := Session.byteStores place (fun i => data.get i i.isLt) order
    let r := s.memory.writeSlice 0x801FFFFB#32 data
    s.memory.isWriteEnabled = false ∧ t.memory.isWriteEnabled = true ∧
      t.memory.ram = s.memory.ram ∧ (t.after stores).memory.ram = r.memory.ram ∧
      r.memory.ramImage.get 0x1FFFFF = 5 ∧ r.trace.clears = [⟨0x801FFFF8#32, 2⟩] := by
  intro s t data place order stores
  have hs : s.memory.Reachable :=
    ⟨{}, {}, false, [.write .word cacheControlAddress 0x800#32, .attachListener], rfl⟩
  have ht : t.memory.Reachable := by
    refine ⟨{}, {}, false, [.write .word cacheControlAddress 0x800#32, .attachListener] ++
      [.write .word cacheControlAddress 0#32], ?_⟩
    rw [Session.after_append]
  have hoff : s.memory.cache = .writeDisabled :=
    (Session.after_cache _ (Session.start_coherent {} {} false)).trans (by decide)
  have hon : t.memory.cache = .writeEnabled := by
    refine (Session.after_cache _ hs.coherent).trans ?_
    rw [hoff]
    decide
  have hshut : s.memory.isWriteEnabled = false := by
    rw [isWriteEnabled, hoff]
    decide
  have hopen : t.memory.isWriteEnabled = true := by
    rw [isWriteEnabled, hon]
    decide
  have hsame : t.memory.ram = s.memory.ram := Session.after_control_ram hs.coherent _
  obtain ⟨-, -, hbytes, hstores, hclears, -⟩ :=
    (writeSlice_stores_run s.memory 0x801FFFFB#32 data).2 (by decide)
  -- the bulk store need not be evaluated
  generalize s.memory.writeSlice 0x801FFFFB#32 data = r at hbytes hstores hclears ⊢
  have hram : ∀ (m n : Memory Empty) (ram : Ram), m = { n with ram } → m.ram = ram := by
    rintro m n ram rfl
    rfl
  have hstored : (t.after stores).memory.ram = r.memory.ram :=
    hram _ _ _ (hstores t place order ht hopen hsame (by decide) (by decide))
  have hlast : r.memory.ramImage.get 0x1FFFFF = 5 :=
    (hbytes .kuseg 0x1FFFFF).trans (dif_pos (by decide))
  have hlistens : s.memory.listening = true := rfl
  rw [if_pos ⟨hlistens, by decide⟩] at hclears
  have hreport : r.trace.clears = [⟨0x801FFFF8#32, 2⟩] := hclears.trans (by decide)
  exact ⟨hshut, hopen, hsame, hstored, hlast, hreport⟩

end Memory

end ConsoleMemory
