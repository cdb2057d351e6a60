import ConsoleMemory.Memory.Boot
import ConsoleMemory.Proofs.Guard
import ConsoleMemory.Proofs.Reader

/-!
# What a reset boots from

The scan tries images in the ROM itself, one after the other. Whatever was tried before, the ROM is
all zero again when the next entry is tried, so that a reset ends with the first image fit to boot
from and nothing besides.
-/

namespace ConsoleMemory

/-- An image to boot from: the name of its file and its bytes. -/
abbrev BootImage := String × ByteArray

/-- Equal but for the case of ASCII letters. -/
def SameName (a b : String) : Prop := a.toList.map Char.toLower = b.toList.map Char.toLower

instance (a b : String) : Decidable (SameName a b) :=
  inferInstanceAs (Decidable (a.toList.map Char.toLower = b.toList.map Char.toLower))

lemma sameName_iff (a b : String) : sameName a b = true ↔ SameName a b := by
  rw [sameName, beq_iff_eq, Text.asciiLower, Text.asciiLower, String.ofList_inj]
  rfl

/-- The image in a directory entry, if the entry has the wanted name in any ASCII case, opens, is
read without a failure and is not empty. -/
def bootImage? (wanted : String) : String × Opened → Option BootImage
  | (name, .reader calls) =>
    if SameName name wanted ∧ calls.Reads 524288 ∧ calls.delivered.size ≠ 0 then
      some (name, calls.delivered)
    else none
  | (_, .refused _) => none

/-- The image a reset boots from: the first in the directory, unless none is asked for or there is
no directory. -/
def Settings.image? (settings : Settings) : Except OsFault Listing → Option BootImage
  | .error _ => none
  | .ok entries => if settings.hle then none else entries.findSome? (bootImage? settings.bios)

/-- The path of a file: the directory with a slash at its end, and the name. -/
def pathIn (directory name : String) : String :=
  directory ++ (if ['/'] <:+ directory.toList then "" else "/") ++ name

lemma entryPath_eq (directory name : String) : entryPath directory name = pathIn directory name := by
  have hslash : directory.toList.getLast? = some '/' ↔ ['/'] <:+ directory.toList := by
    rw [List.getLast?_eq_some_iff]
    exact exists_congr fun body => eq_comm
  unfold entryPath pathIn
  by_cases hends : ['/'] <:+ directory.toList
  · rw [if_pos (hslash.2 hends), if_pos hends, String.append_empty]
  · rw [if_neg (mt hslash.1 hends), if_neg hends]

/-- The outcome of booting from an image, if there is one, in a directory. -/
def BootOutcome.ofImage? (directory : String) : Option BootImage → BootOutcome
  | none => .hle .notFound
  | some (name, bytes) =>
    if 524288 ≤ bytes.size then .loaded (pathIn directory name)
    else .truncated (pathIn directory name) bytes.size

/-- The outcome of a reset. -/
def Settings.outcome (settings : Settings) (listing : Except OsFault Listing) : BootOutcome :=
  match settings.hle, listing with
  | true, _ => .hle .requested
  | false, .error _ => .hle .missingDirectory
  | false, .ok entries =>
    .ofImage? settings.biosDir (entries.findSome? (bootImage? settings.bios))

/-- A machine runs without an image just where a reset finds none. -/
lemma Settings.isHle_outcome_iff (settings : Settings) (listing : Except OsFault Listing) :
    (settings.outcome listing).isHle = true ↔ settings.image? listing = none := by
  unfold outcome image? BootOutcome.ofImage?
  cases settings.hle with
  | true => cases listing <;> simp [BootOutcome.isHle]
  | false =>
    cases listing with
    | error cause => simp [BootOutcome.isHle]
    | ok entries =>
      dsimp only
      cases entries.findSome? (bootImage? settings.bios) with
      | none => simp [BootOutcome.isHle]
      | some named =>
        dsimp only
        split <;> simp [BootOutcome.isHle]

/-- The ROM with an image, if there is one, and zeros after it. -/
def romOf : Option BootImage → Image biosSize
  | none => Image.zero _
  | some (_, bytes) => (Image.zero _).patch 0 bytes

lemma get_romOf (image : Option BootImage) (i : Nat) :
    (romOf image).get i =
      match image with
      | none => 0
      | some (_, bytes) => if h : i < min bytes.size 524288 then bytes.get i (by omega) else 0 := by
  cases image with
  | none => exact Image.get_zero i
  | some named =>
    obtain ⟨name, bytes⟩ := named
    have hsize : biosSize = 524288 := rfl
    rw [romOf, Image.get_patch]
    by_cases hin : i < min bytes.size 524288
    · have hpatched : 0 ≤ i ∧ i < 0 + bytes.size ∧ i < biosSize := by omega
      rw [dif_pos hpatched]
      dsimp only
      rw [dif_pos hin]
      rfl
    · have hout : ¬(0 ≤ i ∧ i < 0 + bytes.size ∧ i < biosSize) := by omega
      rw [dif_neg hout, Image.get_zero]
      dsimp only
      rw [dif_neg hin]

namespace Memory

variable {ρ : Type}

/-! ### Loading one image -/

/-- A file that is read without a failure is laid over the ROM. -/
lemma loadImage_of_reads (m : Memory ρ) (path : String) {calls : Reader}
    (h : calls.Reads biosSize) :
    m.loadImage path (.reader calls) =
      ⟨.ok (min biosSize calls.delivered.size),
        { m with bios := m.bios.patch 0 calls.delivered }, .empty⟩ := by
  unfold loadImage
  dsimp only
  rw [m.bios.readUpTo_eq calls 0 (Nat.zero_le _), Reader.outcome_of_reads h]

/-- A failure before the ROM is full erases it, whatever came before the failure. -/
lemma loadImage_of_fails (m : Memory ρ) (path : String) {calls : Reader} {cause : IoFault}
    (hfault : calls.fault? = some cause) (hshort : calls.delivered.size < biosSize) :
    m.loadImage path (.reader calls) =
      ⟨.error (.io cause), { m with bios := Image.zero _ }, .empty⟩ := by
  unfold loadImage
  dsimp only
  rw [m.bios.readUpTo_eq calls 0 (Nat.zero_le _), Reader.outcome_of_fails hfault hshort]

/-! ### Trying one image after the other -/

/-- A reply that boots a memory: its outcome, nothing changed but the ROM, and no one called. -/
structure Boots (m : Memory ρ) (r : Reply ρ BootOutcome) (outcome : BootOutcome)
    (rom : Image biosSize) : Prop where
  value : r.value = outcome
  memory : r.memory = { m with bios := rom }
  clears : r.trace.clears = []
  calls : r.trace.calls = []

/-- An entry that was passed over leaves a notice and nothing else. -/
lemma Boots.skip {m : Memory ρ} {r : Reply ρ BootOutcome} {outcome : BootOutcome}
    {rom : Image biosSize} (h : m.Boots r outcome rom) (n : Notice) :
    m.Boots { r with trace := .notice n ++ r.trace } outcome rom :=
  ⟨h.value, h.memory, h.clears, h.calls⟩

variable {directory wanted : String} {m : Memory ρ}

/-- An entry that is no image to boot from leaves the ROM all zero for those after it. -/
lemma Boots.scan_cons {entry : String × Opened} {rest : Listing} {outcome : BootOutcome}
    {rom : Image biosSize} (hrest : m.Boots (m.scanImages directory wanted rest) outcome rom)
    (hzero : m.bios = Image.zero _) (hentry : bootImage? wanted entry = none) :
    m.Boots (m.scanImages directory wanted (entry :: rest)) outcome rom := by
  obtain ⟨name, opened⟩ := entry
  unfold scanImages
  by_cases hname : sameName name wanted = true
  · rw [if_pos hname]
    dsimp only
    cases opened with
    | refused cause => exact hrest.skip _
    | reader calls =>
      rcases calls.reads_or_fails biosSize with hreads | ⟨cause, hfault, hshort⟩
      · have hempty : calls.delivered.size = 0 := by
          by_contra hsome
          have hfit : SameName name wanted ∧ calls.Reads 524288 ∧ calls.delivered.size ≠ 0 :=
            ⟨(sameName_iff name wanted).1 hname, hreads, hsome⟩
          rw [bootImage?, if_pos hfit] at hentry
          cases hentry
        have hkept : { m with bios := m.bios.patch 0 calls.delivered } = m := by
          rw [Image.patch_of_size_eq_zero _ _ hempty]
        rw [m.loadImage_of_reads _ hreads]
        dsimp only
        rw [if_pos (by omega), hkept]
        exact hrest.skip _
      · have hcleared : { m with bios := Image.zero biosSize } = m := by rw [← hzero]
        rw [m.loadImage_of_fails _ hfault hshort]
        simp only [hcleared]
        exact hrest.skip _
  · rw [if_neg hname]
    exact hrest

/-- The scan ends with an entry that is an image to boot from. -/
lemma boots_of_bootImage? {entry : String × Opened} {image : BootImage}
    (hzero : m.bios = Image.zero _) (hentry : bootImage? wanted entry = some image)
    (rest : Listing) :
    m.Boots (m.scanImages directory wanted (entry :: rest)) (.ofImage? directory (some image))
      (romOf (some image)) := by
  obtain ⟨name, opened⟩ := entry
  cases opened with
  | refused cause => cases hentry
  | reader calls =>
    obtain ⟨⟨hname, hreads, hsome⟩, himage⟩ := Option.ite_none_right_eq_some.1 hentry
    obtain rfl := Option.some.inj himage
    have hcount : ¬min biosSize calls.delivered.size = 0 := by
      simp only [biosSize]
      omega
    unfold scanImages
    rw [if_pos ((sameName_iff name wanted).2 hname)]
    dsimp only
    rw [m.loadImage_of_reads _ hreads, romOf, ← hzero, BootOutcome.ofImage?, entryPath_eq]
    dsimp only
    rw [if_neg hcount]
    by_cases hfull : biosSize ≤ calls.delivered.size
    · rw [if_neg (by omega), if_pos hfull]
      exact ⟨rfl, rfl, rfl, rfl⟩
    · have hmin : min biosSize calls.delivered.size = calls.delivered.size := by omega
      rw [if_pos (by omega), if_neg hfull, hmin]
      exact ⟨rfl, rfl, rfl, rfl⟩

/-- By induction on the entries; the ROM is all zero before each of them. -/
lemma scanImages_boots (directory wanted : String) (entries : Listing)
    (hzero : m.bios = Image.zero _) :
    m.Boots (m.scanImages directory wanted entries)
      (.ofImage? directory (entries.findSome? (bootImage? wanted)))
      (romOf (entries.findSome? (bootImage? wanted))) := by
  induction entries with
  | nil =>
    refine ⟨rfl, ?_, rfl, rfl⟩
    rw [List.findSome?_nil, romOf, ← hzero]
    rfl
  | cons entry rest ih =>
    rw [List.findSome?_cons]
    cases hentry : bootImage? wanted entry with
    | none => exact ih.scan_cons hzero hentry
    | some image => exact boots_of_bootImage? hzero hentry rest

/-- Looking for an image in a memory whose ROM is all zero. -/
lemma findImage_boots (hzero : m.bios = Image.zero _) (settings : Settings)
    (listing : Except OsFault Listing) :
    m.Boots (m.findImage settings listing) (settings.outcome listing)
      (romOf (settings.image? listing)) := by
  have hkept : m = { m with bios := Image.zero biosSize } := by rw [← hzero]
  unfold findImage Settings.outcome Settings.image?
  cases hhle : settings.hle with
  | true =>
    cases listing with
    | error cause => exact ⟨rfl, hkept, rfl, rfl⟩
    | ok entries => exact ⟨rfl, hkept, rfl, rfl⟩
  | false =>
    cases listing with
    | error cause => exact ⟨rfl, hkept, rfl, rfl⟩
    | ok entries => exact scanImages_boots _ _ entries hzero

lemma quiet_hleInUse (hle : Bool) :
    (if hle then Trace.notice .hleInUse else .empty).calls = [] ∧
      (if hle then Trace.notice .hleInUse else .empty).clears = [] := by
  cases hle <;> exact ⟨rfl, rfl⟩

/-- A reset boots from the first image fit for it in the listing of the directory. Afterwards RAM and
the parallel window are all zero, the ROM holds the image and zeros after it, the settings tell
whether the machine runs without one, and everything else is as it was; nobody was called. -/
theorem reset_boots (m : Memory ρ) (settings : Settings) (listing : Except OsFault Listing) :
    let r := m.reset settings listing
    let outcome := settings.outcome listing
    r.value = (outcome, { settings with hle := outcome.isHle }) ∧
    (∀ segment, r.memory.ram.view segment = Image.zero _) ∧
    r.memory.parallel = Image.zero _ ∧
    (∀ i, r.memory.bios.get i =
      match settings.image? listing with
      | none => 0
      | some (_, bytes) =>
        if h : i < min bytes.size 524288 then bytes.get i (by omega) else 0) ∧
    (outcome.isHle = true ↔ settings.image? listing = none) ∧
    r.memory.ram.name = m.ram.name ∧
    r.memory = { m with
      ram := r.memory.ram, parallel := r.memory.parallel, bios := r.memory.bios } ∧
    r.trace.calls = [] ∧ r.trace.clears = [] := by
  intro r outcome
  have hboots := findImage_boots (m := m.clearForReset) rfl settings listing
  have hmemory : r.memory = { m.clearForReset with bios := romOf (settings.image? listing) } :=
    hboots.memory
  have hvalue : r.value = (outcome, { settings with hle := outcome.isHle }) := by
    have hfound : r.value = ((m.clearForReset.findImage settings listing).value,
      { settings with hle := (m.clearForReset.findImage settings listing).value.isHle }) := rfl
    rw [hfound, hboots.value]
  obtain ⟨hcalls, hclears⟩ :=
    quiet_hleInUse (m.clearForReset.findImage settings listing).value.isHle
  refine ⟨hvalue, ?_, ?_, ?_, settings.isHle_outcome_iff listing, ?_, ?_, ?_, ?_⟩
  · intro segment
    rw [hmemory]
    exact m.ram.view_modify .kuseg segment _
  · rw [hmemory]
    rfl
  · intro i
    rw [hmemory, get_romOf]
  · rw [hmemory]
    exact m.ram.name_modify .kuseg _
  · rw [hmemory]
    rfl
  · exact List.append_eq_nil_iff.2 ⟨hboots.calls, hcalls⟩
  · exact List.append_eq_nil_iff.2 ⟨hboots.clears, hclears⟩

end Memory

end ConsoleMemory
