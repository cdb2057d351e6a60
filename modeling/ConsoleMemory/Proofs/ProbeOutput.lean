import ConsoleMemory.Probe.Run
import ConsoleMemory.Proofs.Flat
import ConsoleMemory.Proofs.Packages
import ConsoleMemory.Proofs.RomHistory

/-!
# What the probe prints

The probe peeks at a machine that was just reset and has no registers, so a peek changes nothing and
shows the boot image in the ROM windows and zeros everywhere else.
-/

namespace ConsoleMemory

lemma Flat.compose_zero (w : Width) : compose w (fun _ => 0) = 0 := by
  simp [compose]

namespace Memory

/-- The way RAM is kept: it is mapped where it is to be and can be. -/
def wayOf (mirroring : Mirroring) (canMap : Bool) : String :=
  if mirroring = .aliased ∧ canMap = true then "aliased" else "table"

/-- Without registers no load changes anything. -/
lemma read_memory_of_empty (m : Memory Empty) (w : Width) (a : Address) :
    (m.read w a).memory = m := by
  obtain ⟨registers, hm⟩ := m.read_memory w a
  rw [hm, Subsingleton.elim registers m.registers]

lemma name_makeRam (mirroring : Mirroring) (canMap : Bool) :
    (makeRam mirroring canMap).1.name = wayOf mirroring canMap := by
  cases mirroring <;> cases canMap <;> rfl

end Memory

namespace Probe

/-- The word a machine that was just reset shows at an address. -/
def bootWord (image : Option BootImage) (a : Address) : Value .word :=
  match Region.ofAddress a, image with
  | .bios, some (_, file) =>
    Flat.compose .word fun i => overlay file (fun _ => 0) (a.toNat % 524288 + i)
  | _, _ => 0

/-- The line of an address that shows a word. -/
def line (a : Address) (word : Value .word) : String :=
  "0x" ++ Text.Hex.padded 8 a.toNat ++ "  " ++ Text.padRight 12 (Region.ofAddress a).name ++
    "  0x" ++ Text.Hex.padded 8 word.toNat ++ "\n"

/-- The machine the probe peeks at. -/
def booted (settings : Settings) (listing : Except OsFault Listing) (canMap : Bool) :
    Memory Empty :=
  ((Memory.create Empty settings.mirroring canMap).memory.reset settings listing).memory

variable (settings : Settings) (listing : Except OsFault Listing) (canMap : Bool)

lemma booted_eq : booted settings listing canMap =
    { (Memory.create Empty settings.mirroring canMap).memory.clearForReset with
      bios := romOf (settings.image? listing) } :=
  Memory.reset_memory_eq _ settings listing

lemma booted_coherent : (booted settings listing canMap).Coherent := by
  rw [booted_eq]
  exact ⟨PageTables.initial_eq, rfl⟩

lemma name_booted :
    (booted settings listing canMap).ram.name = Memory.wayOf settings.mirroring canMap := by
  rw [booted_eq, ← Memory.name_makeRam]
  exact Ram.name_modify _ .kuseg _

/-- Every buffer but the ROM is zero after a reset of a fresh machine. -/
lemma flat_booted : (booted settings listing canMap).flat =
    { ram := fun _ => 0, parallel := fun _ => 0, hardware := fun _ => 0,
      bios := (romOf (settings.image? listing)).get, cache := .writeEnabled, control := 0,
      registers := none, listening := false } := by
  have hram : ((booted settings listing canMap).ram.view .kuseg).get = fun _ => 0 := by
    rw [booted_eq]
    funext p
    simp [Memory.clearForReset, Ram.clear, Ram.view_modify]
  rw [Memory.flat, hram, booted_eq, ← get_zero_eq]
  rfl

lemma read_booted (a : Address) : ((booted settings listing canMap).read .word a).value =
    bootWord (settings.image? listing) a := by
  have hload := congrArg Flat.Outcome.value
    ((booted_coherent settings listing canMap).read_flat .word a)
  rw [Reply.flat_value, flat_booted] at hload
  rw [hload]
  unfold Flat.load bootWord
  cases Region.ofAddress a
  case bios =>
    cases settings.image? listing with
    | none => simp [romOf, Flat.compose_zero]
    | some image => simp [romOf, get_patch_zero, get_zero_eq]
  all_goals simp [Flat.compose_zero, Flat.readRegister]

lemma peekLines_eq (m : Memory Empty) (peeks : List Address) :
    peekLines m peeks = String.join (peeks.map (peekLine m)) := by
  induction peeks with
  | nil => rfl
  | cons a rest ih => rw [peekLines, m.read_memory_of_empty, ih, List.map_cons, String.join_cons]

lemma report_eq (files : Files) (peeks : List Address) :
    report settings files canMap peeks =
      "mirror: " ++ Memory.wayOf settings.mirroring canMap ++
        "\nboot:   " ++ (settings.outcome (files.list settings.biosDir)).describe ++ "\n" ++
        String.join (peeks.map fun a =>
          line a (bootWord (settings.image? (files.list settings.biosDir)) a)) := by
  have hline : peekLine (booted settings (files.list settings.biosDir) canMap) =
      fun a => line a (bootWord (settings.image? (files.list settings.biosDir)) a) := by
    funext a
    rw [← read_booted settings _ canMap]
    rfl
  rw [← name_booted settings (files.list settings.biosDir), ← hline, ← peekLines_eq]
  unfold report
  dsimp only
  rw [Memory.reset_value]
  rfl

/-- A run that gets as far as setting a machine up ends with exit code 0 and prints how RAM is kept,
how the reset ended and a line for each address that was asked for, in order. The line depends on
the address and the boot image alone: it shows the bytes of the image in the ROM windows, zeros
after the image, and zero everywhere else. The image is the first in the directory fit to boot
from; where only one is, it is that one. -/
theorem run_prints {p : Packages} {envFile : Files → Variables → String → Option String}
    (hp : p.Documented envFile) {arguments : List String} {files : Files}
    {vars after : Variables} {options : Options} {settings : Settings}
    (hvars : p.loadVariables files vars = some after)
    (hoptions : p.readArguments arguments = .ok options)
    (hsettings : settingsFor options files after = .ok settings) :
    let listing := files.list settings.biosDir
    (p.run arguments files vars).exitCode = 0 ∧
    (∃ peeks : List Address, peeks.map Except.ok = (peekTexts arguments).map Options.readPeek ∧
      p.run arguments files vars = .printed
        ("mirror: " ++ Memory.wayOf settings.mirroring (p.mapsRam files after) ++
          "\nboot:   " ++ (settings.outcome listing).describe ++ "\n" ++
          String.join (peeks.map fun a => line a (bootWord (settings.image? listing) a)))) ∧
    (∀ entries, listing = .ok entries → settings.hle = false →
      settings.image? listing = (entries.filterMap (bootImage? settings.bios)).head?) := by
  intro listing
  have hrun : p.run arguments files vars =
      .printed (report settings files (p.mapsRam files after) options.peeks) := by
    simp [Packages.run, Packages.runWith, hvars, hoptions, hsettings]
  refine ⟨?_, ⟨options.peeks, (hp.givenBy hoptions).peeks, ?_⟩, ?_⟩
  · rw [hrun]
    rfl
  · rw [hrun, report_eq]
  · intro entries hentries hhle
    rw [hentries, List.head?_filterMap, Settings.image?, hhle]
    rfl

/-- A boot image of three bytes that come in two calls with an interruption between them. -/
def brokenReader : Reader := [.bytes ⟨#[0x11]⟩, .interrupted, .bytes ⟨#[0x22, 0x33]⟩]

lemma findSome?_brokenReader :
    [("SCPH1001.BIN", Opened.reader brokenReader)].findSome? (bootImage? "scph1001.bin") =
      some ("SCPH1001.BIN", ⟨#[0x11, 0x22, 0x33]⟩) := by
  have hfit : bootImage? "scph1001.bin" ("SCPH1001.BIN", .reader brokenReader) =
      some ("SCPH1001.BIN", ⟨#[0x11, 0x22, 0x33]⟩) := by
    rw [bootImage?, if_pos ⟨by decide, .inl rfl, by decide⟩]
    rfl
  rw [List.findSome?_cons, hfit]

/-- Three bytes of ROM, with zeros after them, and RAM. -/
theorem run_prints_short_image :
    let p := Packages.standard true
    let files : Files :=
      ⟨[(["bios"], .directory), (["bios", "SCPH1001.BIN"], .file brokenReader)]⟩
    let arguments := ["--peek", "0xBFC00001", "--peek=80000000"]
    let options : Options := { peeks := [0xBFC00001#32, 0x80000000#32] }
    p.Documented EnvironmentFile.value? ∧ p.loadVariables files [] = some [] ∧
    p.readArguments arguments = .ok options ∧ settingsFor options files [] = .ok {} ∧
    p.run arguments files [] = .printed
      ("mirror: table\nboot:   loaded bios/SCPH1001.BIN (3 of 524288 bytes)\n" ++
        "0xBFC00001  BIOS          0x00003322\n0x80000000  RAM           0x00000000\n") := by
  intro p files arguments options
  have hp : p.Documented EnvironmentFile.value? := Packages.standard_documented true
  have hvars : p.loadVariables files [] = some [] := rfl
  have hoptions : p.readArguments arguments = .ok options := rfl
  have hsettings : settingsFor options files [] = .ok {} := rfl
  have hlist : files.list "bios" = .ok [("SCPH1001.BIN", .reader brokenReader)] := rfl
  have himage : Settings.image? {} (files.list "bios") =
      some ("SCPH1001.BIN", ⟨#[0x11, 0x22, 0x33]⟩) := by
    rw [hlist, Settings.image?]
    exact findSome?_brokenReader
  have hboot : (Settings.outcome {} (files.list "bios")).describe =
      "loaded bios/SCPH1001.BIN (3 of 524288 bytes)" := by
    have houtcome : Settings.outcome {} (files.list "bios") =
        .ofImage? "bios" (some ("SCPH1001.BIN", ⟨#[0x11, 0x22, 0x33]⟩)) := by
      rw [hlist, ← findSome?_brokenReader]
      rfl
    rw [houtcome]
    rfl
  have hrom : line 0xBFC00001#32
      (bootWord (some ("SCPH1001.BIN", ⟨#[0x11, 0x22, 0x33]⟩)) 0xBFC00001#32) =
        "0xBFC00001  BIOS          0x00003322\n" := by decide +kernel
  have hram : line 0x80000000#32
      (bootWord (some ("SCPH1001.BIN", ⟨#[0x11, 0x22, 0x33]⟩)) 0x80000000#32) =
        "0x80000000  RAM           0x00000000\n" := by decide +kernel
  obtain ⟨-, ⟨peeks, hpeeks, hrun⟩, -⟩ := run_prints hp hvars hoptions hsettings
  have hsame : peeks = options.peeks := by
    apply List.map_injective_iff.2 (fun a b h => Except.ok.inj h)
    exact hpeeks.trans rfl
  refine ⟨hp, hvars, hoptions, hsettings, ?_⟩
  rw [hrun, hsame, himage, hboot, List.map_cons, List.map_cons, hrom, hram]
  rfl

end Probe

end ConsoleMemory
