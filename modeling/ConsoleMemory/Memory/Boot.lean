import ConsoleMemory.Memory
import ConsoleMemory.Reader

/-!
# Booting

A reset clears RAM, the parallel window and the boot ROM and then looks for a boot image: the
entries of the image directory are tried in order, those with the wanted name in any ASCII case,
until one opens, reads and is not empty. Without an image the machine runs on high-level emulation
(HLE).
-/

namespace ConsoleMemory

/-- What opening a file gives: the calls that read from it, or a refusal. -/
inductive Opened where
  | reader (calls : Reader)
  | refused (cause : OsFault)

/-- The entries of a directory, in order, each with what opening it gives. -/
abbrev Listing := List (String × Opened)

/-- Why a machine runs without a boot image. -/
inductive HleReason where
  | requested
  | missingDirectory
  | notFound
  deriving DecidableEq, Repr

/-- The outcome of a reset. -/
inductive BootOutcome where
  | loaded (path : String)
  | truncated (path : String) (count : Nat)
  | hle (reason : HleReason)
  deriving DecidableEq, Repr

namespace BootOutcome

/-- Whether the machine runs without a boot image. -/
def isHle : BootOutcome → Bool
  | hle _ => true
  | _ => false

/-- The outcome in words. -/
def describe : BootOutcome → String
  | loaded path => "loaded " ++ path
  | truncated path count =>
    "loaded " ++ path ++ " (" ++ toString count ++ " of " ++ toString biosSize ++ " bytes)"
  | hle .requested => "HLE (requested)"
  | hle .missingDirectory => "HLE (BIOS directory not found)"
  | hle .notFound => "HLE (BIOS image not found)"

end BootOutcome

/-- The path of a directory entry: a slash goes between unless the directory ends in one. -/
def entryPath (directory name : String) : String :=
  if directory.toList.getLast? = some '/' then directory ++ name else directory ++ "/" ++ name

/-- Equal up to the case of ASCII letters. -/
def sameName (a b : String) : Bool := Text.asciiLower a == Text.asciiLower b

namespace Memory

variable {ρ : Type}

/-- Loads a boot image over the start of the ROM and tells how many bytes were taken. The rest of
the ROM is kept. When reading fails the ROM becomes zero, whatever was read before. -/
def loadImage (m : Memory ρ) (path : String) (opened : Opened) : Reply ρ (Except Fault Nat) :=
  match opened with
  | .reader calls =>
    match m.bios.readUpTo 0 calls with
    | (.ok count, bios) => ⟨.ok count, { m with bios }, .empty⟩
    | (.error cause, _) => ⟨.error (.io cause), { m with bios := Image.zero _ }, .empty⟩
  | .refused _ => ⟨.error (.biosNotFound path), m, .empty⟩

/-- Tries the entries of the image directory in order. -/
def scanImages (m : Memory ρ) (directory wanted : String) : Listing → Reply ρ BootOutcome
  | [] => ⟨.hle .notFound, m, .notice (.imageNotFound wanted)⟩
  | (name, opened) :: rest =>
    if sameName name wanted then
      let path := entryPath directory name
      let tried := m.loadImage path opened
      match tried.value with
      | .ok count =>
        if count = 0 then
          let later := scanImages tried.memory directory wanted rest
          { later with trace := .notice (.imageEmpty path) ++ later.trace }
        else if count < biosSize then
          ⟨.truncated path count, tried.memory, .notice (.imageShort path count)⟩
        else ⟨.loaded path, tried.memory, .notice (.imageLoaded path)⟩
      | .error (.biosNotFound _) =>
        let later := scanImages tried.memory directory wanted rest
        { later with trace := .notice (.imageUnopened path) ++ later.trace }
      | .error cause =>
        let later := scanImages tried.memory directory wanted rest
        { later with trace := .notice (.imageUnreadable path cause) ++ later.trace }
    else scanImages m directory wanted rest

/-- Looks for a boot image unless the settings ask for none. -/
def findImage (m : Memory ρ) (settings : Settings) (listing : Except OsFault Listing) :
    Reply ρ BootOutcome :=
  if settings.hle then ⟨.hle .requested, m, .empty⟩
  else
    match listing with
    | .error cause =>
      ⟨.hle .missingDirectory, m, .notice (.directoryUnopened settings.biosDir cause)⟩
    | .ok entries => m.scanImages settings.biosDir settings.bios entries

/-- RAM, the parallel window and the ROM become zero. -/
def clearForReset (m : Memory ρ) : Memory ρ :=
  { m with ram := m.ram.clear, parallel := Image.zero _, bios := Image.zero _ }

/-- Resets the machine and boots it. The settings afterwards say whether it runs on HLE. -/
def reset (m : Memory ρ) (settings : Settings) (listing : Except OsFault Listing) :
    Reply ρ (BootOutcome × Settings) :=
  let found := m.clearForReset.findImage settings listing
  let hle := found.value.isHle
  let told := if hle then Trace.notice .hleInUse else .empty
  ⟨(found.value, { settings with hle }), found.memory, found.trace ++ told⟩

end Memory

end ConsoleMemory
