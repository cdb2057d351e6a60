import ConsoleMemory.Memory.Boot
import ConsoleMemory.Memory.Bulk
import ConsoleMemory.Memory.Direct
import ConsoleMemory.Proofs.Displacement

/-!
# Forgetting how RAM is kept

Any RAM can be put in one buffer with the same bytes. Every operation on a memory does the same
before and after that, so none can tell in which way RAM is kept.
-/

namespace ConsoleMemory

namespace Ram

/-- The same RAM in one buffer. -/
def unmirrored (ram : Ram) : Ram := table (ram.view .kuseg)

lemma view_unmirrored (ram : Ram) (s : Segment) : ram.unmirrored.view s = ram.view s := by
  cases ram <;> rfl

lemma unmirrored_modify (ram : Ram) (s : Segment) (change : Image ramSize → Image ramSize) :
    (ram.modify s change).unmirrored = ram.unmirrored.modify s change := by
  cases ram <;> rfl

end Ram

namespace Memory

variable {ρ : Type}

/-- The same memory with RAM in one buffer. -/
def unmirrored (m : Memory ρ) : Memory ρ := { m with ram := m.ram.unmirrored }

end Memory

/-- The same reply with RAM in one buffer. -/
def Reply.unmirrored {ρ α : Type} (r : Reply ρ α) : Reply ρ α :=
  { r with memory := r.memory.unmirrored }

namespace Memory

variable {ρ : Type} (m : Memory ρ)

lemma getD_unmirrored {α : Type} (reply : Option (Reply ρ α)) (value : α) (trace : Trace) :
    (reply.map Reply.unmirrored).getD ⟨value, m.unmirrored, trace⟩ =
      (reply.getD ⟨value, m, trace⟩).unmirrored := by
  cases reply <;> rfl

/-- A change of RAM, seen in one buffer. -/
lemma unmirrored_modifyRam (s : Segment) (change : Image ramSize → Image ramSize) :
    ({ m with ram := m.ram.modify s change } : Memory ρ).unmirrored =
      { m.unmirrored with ram := m.unmirrored.ram.modify s change } := by
  unfold unmirrored
  rw [Ram.unmirrored_modify]

/-! ### Operations without registers -/

lemma report_unmirrored (a : Address) (words : Nat) :
    m.unmirrored.report a words = m.report a words := rfl

lemma patchRam?_unmirrored (start : Nat) (data : ByteArray) :
    m.unmirrored.patchRam? start data = (m.patchRam? start data).map unmirrored := by
  have hsize : m.unmirrored.ramImage.bytes.size = m.ramImage.bytes.size := by
    rw [Image.size_bytes, Image.size_bytes]
  unfold patchRam?
  rw [hsize, ← unmirrored_modifyRam]
  split <;> rfl

lemma patchRam_unmirrored (start : Nat) (data : ByteArray) :
    m.unmirrored.patchRam start data = (m.patchRam start data).unmirrored := by
  rw [patchRam, patchRam?_unmirrored, Option.getD_map, patchRam]

lemma writeSlice_unmirrored (a : Address) (data : ByteArray) :
    m.unmirrored.writeSlice a data = (m.writeSlice a data).unmirrored := by
  have hslice : m.unmirrored.writeSlice? a data = (m.writeSlice? a data).map Reply.unmirrored := by
    unfold writeSlice?
    dsimp only
    rw [patchRam?_unmirrored, report_unmirrored, Option.map_map, apply_ite (Option.map _),
      Option.map_map]
    rfl
  rw [writeSlice, hslice]
  exact m.getD_unmirrored _ _ _

lemma clearForReset_unmirrored : m.unmirrored.clearForReset = m.clearForReset.unmirrored := by
  have hclear : m.unmirrored.ram.clear = m.ram.clear.unmirrored :=
    (m.ram.unmirrored_modify .kuseg fun _ => Image.zero ramSize).symm
  unfold clearForReset
  rw [hclear]
  rfl

lemma loadImage_unmirrored (path : String) (opened : Opened) :
    m.unmirrored.loadImage path opened = (m.loadImage path opened).unmirrored := by
  cases opened with
  | reader calls =>
    have hbios : m.unmirrored.bios = m.bios := rfl
    unfold loadImage
    dsimp only
    rw [hbios]
    split <;> rfl
  | refused cause => rfl

/-- By induction on the entries, along the same branches on both sides. -/
lemma scanImages_unmirrored (directory wanted : String) (entries : Listing) : ∀ m : Memory ρ,
    m.unmirrored.scanImages directory wanted entries =
      (m.scanImages directory wanted entries).unmirrored := by
  induction entries with
  | nil =>
    intro m
    rfl
  | cons entry rest ih =>
    intro m
    obtain ⟨name, opened⟩ := entry
    unfold scanImages
    by_cases hname : sameName name wanted = true
    · rw [if_pos hname, if_pos hname]
      dsimp only
      rw [loadImage_unmirrored]
      generalize m.loadImage (entryPath directory name) opened = tried
      obtain ⟨value, loaded, trace⟩ := tried
      unfold Reply.unmirrored
      dsimp only
      rw [ih]
      cases value with
      | ok count =>
        dsimp only
        split
        · rfl
        · split <;> rfl
      | error cause => cases cause <;> rfl
    · rw [if_neg hname, if_neg hname, ih]

lemma reset_unmirrored (settings : Settings) (listing : Except OsFault Listing) :
    m.unmirrored.reset settings listing = (m.reset settings listing).unmirrored := by
  have hfound : m.unmirrored.clearForReset.findImage settings listing =
      (m.clearForReset.findImage settings listing).unmirrored := by
    rw [clearForReset_unmirrored]
    unfold findImage
    split
    · rfl
    · cases listing with
      | error cause => rfl
      | ok entries => exact scanImages_unmirrored _ _ _ _
  unfold reset
  rw [hfound]
  rfl

lemma storeControl_unmirrored (value : BitVec 32) :
    m.unmirrored.storeControl value = (m.storeControl value).unmirrored := by
  have hcache : m.unmirrored.cache = m.cache := rfl
  have htables : m.unmirrored.tables = m.tables := rfl
  unfold storeControl
  dsimp only
  rw [hcache, htables]
  split
  · cases m.cache <;> simp only [Reply.unmirrored, unmirrored, done]
  · split
    · cases m.cache <;> simp only [Reply.unmirrored, unmirrored, done]
    · rfl

lemma storeUnmapped_unmirrored {w : Width} (a : Address) (v : Value w) :
    m.unmirrored.storeUnmapped a v = (m.storeUnmapped a v).unmirrored := by
  have henabled : m.unmirrored.isWriteEnabled = m.isWriteEnabled := rfl
  unfold storeUnmapped
  rw [storeControl_unmirrored, report_unmirrored, henabled]
  split
  · rfl
  · dsimp only
    split <;> rfl

lemma loaded_unmirrored {w : Width} (loaded : Option (Value w)) (trace : Trace) :
    (do return ⟨← loaded, m.unmirrored, trace⟩ : Option (Reply ρ (Value w))) =
      (do return ⟨← loaded, m, trace⟩ : Option (Reply ρ (Value w))).map Reply.unmirrored := by
  cases loaded <;> rfl

lemma stored_unmirrored {n : Nat} (stored : Option (Image n)) (replace : Image n → Memory ρ)
    (trace : Trace) :
    (do return done (replace (← stored)).unmirrored trace : Option (Reply ρ Unit)) =
      (do return done (replace (← stored)) trace : Option (Reply ρ Unit)).map Reply.unmirrored := by
  cases stored <;> rfl

lemma storeWindow?_unmirrored {w : Width} {n : Nat} (window : Image n)
    (replace : Image n → Memory ρ) (order : ByteOrder) (start : Nat) (v : Value w) :
    m.unmirrored.storeWindow? window (fun changed => (replace changed).unmirrored) order start v =
      (m.storeWindow? window replace order start v).map Reply.unmirrored := by
  unfold storeWindow?
  rw [Option.map_map]
  congr 1
  funext stored
  cases stored <;> rfl

/-! ### Operations with registers -/

variable [RegisterBank ρ]

lemma readRegister_unmirrored (w : Width) (a : Address) :
    m.unmirrored.readRegister w a = (m.readRegister w a).unmirrored := by
  have hregisters : m.unmirrored.registers = m.registers := rfl
  unfold readRegister
  rw [hregisters]
  cases m.registers <;> rfl

lemma writeRegister_unmirrored {w : Width} (a : Address) (v : Value w) :
    m.unmirrored.writeRegister a v = (m.writeRegister a v).unmirrored := by
  have hregisters : m.unmirrored.registers = m.registers := rfl
  unfold writeRegister
  rw [hregisters]
  cases m.registers <;> rfl

lemma readDirect_unmirrored (order : ByteOrder) (w : Width) (a : Address) :
    m.unmirrored.readDirect order w a = (m.readDirect order w a).unmirrored := by
  have hread : m.unmirrored.readDirect? order w a =
      (m.readDirect? order w a).map Reply.unmirrored := by
    unfold readDirect?
    rw [readRegister_unmirrored]
    split
    · split
      · exact m.loaded_unmirrored _ _
      · rfl
    · split <;> exact m.loaded_unmirrored _ _
  rw [readDirect, hread]
  exact m.getD_unmirrored _ _ _

lemma writeDirect_unmirrored (order : ByteOrder) {w : Width} (a : Address) (v : Value w) :
    m.unmirrored.writeDirect order a v = (m.writeDirect order a v).unmirrored := by
  have hwrite : m.unmirrored.writeDirect? order a v =
      (m.writeDirect? order a v).map Reply.unmirrored := by
    unfold writeDirect?
    rw [writeRegister_unmirrored]
    split
    · split
      · exact m.storeWindow?_unmirrored m.hardware (fun hardware => { m with hardware }) _ _ v
      · rfl
    · exact m.storeWindow?_unmirrored m.parallel (fun parallel => { m with parallel }) _ _ v
  rw [writeDirect, hwrite]
  exact m.getD_unmirrored _ _ _

lemma read?_unmirrored (w : Width) (a : Address) :
    m.unmirrored.read? w a = (m.read? w a).map Reply.unmirrored := by
  have htables : m.unmirrored.tables = m.tables := rfl
  have hview : m.unmirrored.ram.view (Segment.ofAddress a) = m.ram.view (Segment.ofAddress a) :=
    m.ram.view_unmirrored _
  unfold read?
  rw [readRegister_unmirrored, htables, hview]
  split
  · split
    · exact m.loaded_unmirrored _ _
    · rfl
  · dsimp only
    split <;> exact m.loaded_unmirrored _ _

lemma read_unmirrored (w : Width) (a : Address) :
    m.unmirrored.read w a = (m.read w a).unmirrored := by
  rw [read, read?_unmirrored]
  exact m.getD_unmirrored _ _ _

lemma write?_unmirrored {w : Width} (a : Address) (v : Value w) :
    m.unmirrored.write? a v = (m.write? a v).map Reply.unmirrored := by
  have htables : m.unmirrored.tables = m.tables := rfl
  have hview : m.unmirrored.ram.view (Segment.ofAddress a) = m.ram.view (Segment.ofAddress a) :=
    m.ram.view_unmirrored _
  unfold write?
  rw [writeRegister_unmirrored, storeUnmapped_unmirrored, report_unmirrored, htables, hview]
  split
  · split
    · exact stored_unmirrored _ (fun hardware => { m with hardware }) _
    · rfl
  · split
    · rfl
    · dsimp only
      split
      · cases (m.ram.view (Segment.ofAddress a)).store? .wrap _ v with
        | none => rfl
        | some image =>
          exact congrArg (fun memory => some (done memory _)) (m.unmirrored_modifyRam _ _).symm
      · exact stored_unmirrored _ (fun parallel => { m with parallel }) _
      · exact stored_unmirrored _ (fun hardware => { m with hardware }) _
      · rfl
      · rfl

lemma write_unmirrored {w : Width} (a : Address) (v : Value w) :
    m.unmirrored.write a v = (m.write a v).unmirrored := by
  rw [write, write?_unmirrored]
  exact m.getD_unmirrored _ _ _

/-- A guarded read answers alike from both ways of keeping RAM. -/
lemma readRelative_unmirrored (base : Address) (disp : Int32) :
    m.unmirrored.readRelative base disp = (m.readRelative base disp).unmirrored := by
  have hloaded : m.unmirrored.loadDisplaced? base disp = m.loadDisplaced? base disp := by
    have hreads : m.unmirrored.readsRam base = m.readsRam base := rfl
    have hview : m.unmirrored.ram.view (Segment.ofAddress base) =
        m.ram.view (Segment.ofAddress base) := m.ram.view_unmirrored _
    rw [loadDisplaced?_eq, loadDisplaced?_eq, hreads, hview]
  have hread : m.unmirrored.readRelative? base disp =
      (m.readRelative? base disp).map Reply.unmirrored := by
    unfold readRelative?
    rw [hloaded, read?_unmirrored]
    cases m.loadDisplaced? base disp with
    | none => rfl
    | some direct => cases direct <;> rfl
  rw [readRelative, hread]
  exact m.getD_unmirrored _ _ _

/-- A guarded write has the same effect on both ways of keeping RAM. -/
lemma writeRelative_unmirrored (base : Address) (disp : Int32) (v : Value .word) :
    m.unmirrored.writeRelative base disp v = (m.writeRelative base disp v).unmirrored := by
  have hlength : (v.toBytes guestOrder).length = Width.word.bytes :=
    Value.length_toBytes guestOrder v
  have hstored : m.unmirrored.storeDisplaced? base disp (v.toBytes guestOrder) =
      (m.storeDisplaced? base disp (v.toBytes guestOrder)).map (Option.map Ram.unmirrored) := by
    have hwrites : m.unmirrored.writesRam base = m.writesRam base := rfl
    rw [storeDisplaced?_eq _ _ _ hlength, storeDisplaced?_eq _ _ _ hlength, hwrites,
      Option.map_some, apply_ite (Option.map Ram.unmirrored), Option.map_some,
      Ram.unmirrored_modify]
    rfl
  have hwrite : m.unmirrored.writeRelative? base disp v =
      (m.writeRelative? base disp v).map Reply.unmirrored := by
    unfold writeRelative?
    rw [hstored, write?_unmirrored]
    cases m.storeDisplaced? base disp (v.toBytes guestOrder) with
    | none => rfl
    | some direct => cases direct <;> rfl
  rw [writeRelative, hwrite]
  exact m.getD_unmirrored _ _ _

end Memory

end ConsoleMemory
