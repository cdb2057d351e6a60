import ConsoleMemory.Memory.Boot
import ConsoleMemory.Memory.Bulk
import ConsoleMemory.Memory.Direct
import ConsoleMemory.Proofs.Displacement

/-!
# What an operation can change

For every operation on a memory the fields it may change, as an equation that keeps all others. What
an operation leaves alone is read off these equations and not proved again from its definition. An
operation that stops changes nothing.
-/

namespace ConsoleMemory.Memory

variable {ρ : Type} (m : Memory ρ)

lemma patchRam?_of_le {start : Nat} {data : ByteArray} (h : start + data.size ≤ ramSize) :
    m.patchRam? start data =
      some { m with ram := m.ram.modify .kuseg fun image => image.patch start data } := by
  rw [patchRam?, m.ramImage.size_bytes, if_pos h]

lemma patchRam_memory (start : Nat) (data : ByteArray) :
    ∃ ram, ram.name = m.ram.name ∧ m.patchRam start data = { m with ram } := by
  unfold patchRam patchRam?
  split
  · exact ⟨_, m.ram.name_modify _ _, rfl⟩
  · exact ⟨m.ram, rfl, rfl⟩

/-- A bulk store never stops: one that does not fit is refused, and any other has room in RAM. -/
lemma writeSlice?_eq (a : Address) (data : ByteArray) :
    m.writeSlice? a data = some (m.writeSlice a data) := by
  unfold writeSlice writeSlice?
  dsimp only
  by_cases h : ramSize < a.toNat % ramSize + data.size
  · rw [if_pos h, Option.getD_some]
  · rw [if_neg h, m.patchRam?_of_le (Nat.not_lt.1 h), Option.map_some, Option.getD_some]

/-- A bulk store that does not fit stores nothing. -/
lemma writeSlice_of_lt {a : Address} {data : ByteArray}
    (h : ramSize < a.toNat % ramSize + data.size) :
    m.writeSlice a data = ⟨.error (.invalidAccess a), m, .empty⟩ := by
  rw [writeSlice, writeSlice?, if_pos h, Option.getD_some]

/-- A bulk store that fits puts its bytes and tells of them. -/
lemma writeSlice_of_le {a : Address} {data : ByteArray}
    (h : a.toNat % ramSize + data.size ≤ ramSize) :
    m.writeSlice a data =
      ⟨.ok (),
        { m with ram := m.ram.modify .kuseg fun image => image.patch (a.toNat % ramSize) data },
        (if data.size = 0 then .empty
          else m.report a.wordStart
            (wordsTouched (a.toNat % ramSize) (a.toNat % ramSize + data.size))) ++
          .notice (.sliceWritten data.size a)⟩ := by
  rw [writeSlice, writeSlice?, if_neg (Nat.not_lt.2 h), m.patchRam?_of_le h, Option.map_some,
    Option.getD_some]

lemma writeSlice_memory (a : Address) (data : ByteArray) :
    ∃ ram, ram.name = m.ram.name ∧ (m.writeSlice a data).memory = { m with ram } := by
  by_cases h : ramSize < a.toNat % ramSize + data.size
  · rw [m.writeSlice_of_lt h]
    exact ⟨m.ram, rfl, rfl⟩
  · rw [m.writeSlice_of_le (Nat.not_lt.1 h)]
    exact ⟨_, m.ram.name_modify _ _, rfl⟩

lemma loadImage_memory (path : String) (opened : Opened) :
    ∃ bios, (m.loadImage path opened).memory = { m with bios } := by
  cases opened with
  | reader calls =>
    unfold loadImage
    dsimp only
    split <;> exact ⟨_, rfl⟩
  | refused cause => exact ⟨m.bios, rfl⟩

/-- By induction on the entries: every image that is tried changes the ROM alone. -/
lemma scanImages_memory (directory wanted : String) (entries : Listing) :
    ∀ m : Memory ρ, ∃ bios, (m.scanImages directory wanted entries).memory = { m with bios } := by
  induction entries with
  | nil =>
    intro m
    exact ⟨m.bios, rfl⟩
  | cons entry rest ih =>
    intro m
    obtain ⟨name, opened⟩ := entry
    obtain ⟨tried, htried⟩ := m.loadImage_memory (entryPath directory name) opened
    have hlater : ∃ bios, ((m.loadImage (entryPath directory name) opened).memory.scanImages
        directory wanted rest).memory = { m with bios } := by
      obtain ⟨bios, h⟩ := ih { m with bios := tried }
      rw [htried]
      exact ⟨bios, h⟩
    unfold scanImages
    split
    · dsimp only
      split
      · split
        · exact hlater
        · split <;> exact ⟨tried, htried⟩
      · exact hlater
      · exact hlater
    · exact ih m

lemma reset_memory (settings : Settings) (listing : Except OsFault Listing) :
    ∃ ram bios, ram.name = m.ram.name ∧ (m.reset settings listing).memory =
      { m with ram, parallel := Image.zero _, bios } := by
  have hname : m.ram.clear.name = m.ram.name := m.ram.name_modify _ _
  unfold reset findImage
  dsimp only
  split
  · exact ⟨m.ram.clear, Image.zero _, hname, rfl⟩
  · split
    · exact ⟨m.ram.clear, Image.zero _, hname, rfl⟩
    · obtain ⟨bios, hm⟩ := scanImages_memory _ _ _ m.clearForReset
      exact ⟨m.ram.clear, bios, hname, hm⟩

lemma storeUnmapped_memory {w : Width} {a : Address} (v : Value w)
    (h : ¬(w = .word ∧ a = cacheControlAddress)) : (m.storeUnmapped a v).memory = m := by
  unfold storeUnmapped
  rw [if_neg h]
  dsimp only
  split <;> rfl

/-- A load from a buffer leaves the memory as it was. -/
lemma memory_of_loaded {w : Width} {loaded : Option (Value w)} {trace : Trace}
    {r : Reply ρ (Value w)} (h : (do return ⟨← loaded, m, trace⟩) = some r) : r.memory = m := by
  obtain ⟨v, -, hr⟩ := Option.bind_eq_some_iff.1 h
  rw [← Option.some.inj hr]

/-- A direct store to a window puts it back changed, or leaves the memory as it was. -/
lemma memory_of_storeWindow? {w : Width} {n start : Nat} {window : Image n}
    {replace : Image n → Memory ρ} {order : ByteOrder} {v : Value w} {r : Reply ρ Unit}
    (h : m.storeWindow? window replace order start v = some r) :
    r.memory = m ∨ ∃ changed, r.memory = replace changed := by
  obtain ⟨stored, -, hr⟩ := Option.map_eq_some_iff.1 h
  rw [← hr]
  cases stored with
  | none => exact .inl rfl
  | some changed => exact .inr ⟨changed, rfl⟩

variable [RegisterBank ρ]

lemma readRegister_memory (w : Width) (a : Address) :
    ∃ registers, (m.readRegister w a).memory = { m with registers } := by
  unfold readRegister
  split
  · exact ⟨m.registers, rfl⟩
  · exact ⟨_, rfl⟩

lemma writeRegister_memory {w : Width} (a : Address) (v : Value w) :
    ∃ registers, (m.writeRegister a v).memory = { m with registers } := by
  unfold writeRegister
  split
  · exact ⟨m.registers, rfl⟩
  · exact ⟨_, rfl⟩

lemma readDirect_memory (order : ByteOrder) (w : Width) (a : Address) :
    ∃ registers, (m.readDirect order w a).memory = { m with registers } := by
  unfold readDirect
  cases hread : m.readDirect? order w a with
  | none => exact ⟨m.registers, rfl⟩
  | some r =>
    rw [Option.getD_some]
    unfold readDirect? at hread
    split at hread
    · split at hread
      · exact ⟨m.registers, m.memory_of_loaded hread⟩
      · rw [← Option.some.inj hread]
        exact m.readRegister_memory w a
    · split at hread <;> exact ⟨m.registers, m.memory_of_loaded hread⟩

lemma writeDirect_memory (order : ByteOrder) {w : Width} (a : Address) (v : Value w) :
    ∃ parallel hardware registers,
      (m.writeDirect order a v).memory = { m with parallel, hardware, registers } := by
  unfold writeDirect
  cases hwrite : m.writeDirect? order a v with
  | none => exact ⟨m.parallel, m.hardware, m.registers, rfl⟩
  | some r =>
    rw [Option.getD_some]
    unfold writeDirect? at hwrite
    split at hwrite
    · split at hwrite
      · obtain hr | ⟨hardware, hr⟩ := m.memory_of_storeWindow? hwrite
        · exact ⟨m.parallel, m.hardware, m.registers, hr⟩
        · exact ⟨m.parallel, hardware, m.registers, hr⟩
      · obtain ⟨registers, h⟩ := m.writeRegister_memory a v
        rw [← Option.some.inj hwrite]
        exact ⟨m.parallel, m.hardware, registers, h⟩
    · obtain hr | ⟨parallel, hr⟩ := m.memory_of_storeWindow? hwrite
      · exact ⟨m.parallel, m.hardware, m.registers, hr⟩
      · exact ⟨parallel, m.hardware, m.registers, hr⟩

lemma read_memory (w : Width) (a : Address) :
    ∃ registers, (m.read w a).memory = { m with registers } := by
  unfold read
  cases hread : m.read? w a with
  | none => exact ⟨m.registers, rfl⟩
  | some r =>
    rw [Option.getD_some]
    unfold read? at hread
    split at hread
    · split at hread
      · exact ⟨m.registers, m.memory_of_loaded hread⟩
      · rw [← Option.some.inj hread]
        exact m.readRegister_memory w a
    · dsimp only at hread
      split at hread <;> exact ⟨m.registers, m.memory_of_loaded hread⟩

lemma readRelative_memory (base : Address) (disp : Int32) :
    ∃ registers, (m.readRelative base disp).memory = { m with registers } := by
  unfold readRelative
  cases hread : m.readRelative? base disp with
  | none => exact ⟨m.registers, rfl⟩
  | some r =>
    unfold readRelative? at hread
    obtain ⟨direct, -, hdirect⟩ := Option.bind_eq_some_iff.1 hread
    cases direct with
    | some bytes =>
      rw [← Option.some.inj hdirect]
      exact ⟨m.registers, rfl⟩
    | none =>
      have hsame : m.read .word (displaced base disp) = r := by
        rw [read, show m.read? .word (displaced base disp) = some r from hdirect, Option.getD_some]
      rw [Option.getD_some, ← hsame]
      exact m.read_memory _ _

variable {m}

/-- A word stored to the cache control register goes nowhere else. -/
lemma Coherent.write_control (h : m.Coherent) (v : Value .word) :
    m.write cacheControlAddress v = m.storeControl (BitVec.ofNat 32 v.toNat) := by
  have hregion : Region.ofAddress cacheControlAddress = .cacheControl := by decide
  rw [h.write_eq, writeByRegion, hregion]
  unfold storeUnmapped
  dsimp only
  rw [if_pos ⟨rfl, rfl⟩, v.toWord_eq]

/-- Any other guest store may change buffers and registers. -/
lemma Coherent.write_memory (h : m.Coherent) {w : Width} {a : Address} (v : Value w)
    (hcontrol : ¬(w = .word ∧ a = cacheControlAddress)) :
    ∃ ram parallel hardware registers, ram.name = m.ram.name ∧
      (m.write a v).memory = { m with ram, parallel, hardware, registers } := by
  have hdropped : ∃ ram parallel hardware registers, ram.name = m.ram.name ∧
      (m.storeUnmapped a v).memory = { m with ram, parallel, hardware, registers } :=
    ⟨m.ram, m.parallel, m.hardware, m.registers, rfl, m.storeUnmapped_memory v hcontrol⟩
  rw [h.write_eq, writeByRegion]
  cases Region.ofAddress a
  case ram =>
    dsimp only
    split
    · exact ⟨_, m.parallel, m.hardware, m.registers, m.ram.name_modify _ _, rfl⟩
    · exact hdropped
  case parallel => exact ⟨m.ram, _, m.hardware, m.registers, rfl, rfl⟩
  case scratchpad => exact ⟨m.ram, m.parallel, _, m.registers, rfl, rfl⟩
  case io =>
    obtain ⟨registers, hregisters⟩ := m.writeRegister_memory a v
    exact ⟨m.ram, m.parallel, m.hardware, registers, rfl, hregisters⟩
  case bios => exact hdropped
  case cacheControl => exact hdropped
  case unmapped => exact hdropped

end ConsoleMemory.Memory
