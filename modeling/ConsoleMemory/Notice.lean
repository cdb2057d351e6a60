import ConsoleMemory.Fault
import ConsoleMemory.Region
import ConsoleMemory.Word

/-!
# Notices

What the machine tells about its work, one constructor per occasion. `level` says how severe a
notice is and `message` how it reads.
-/

namespace ConsoleMemory

/-- Severity, least severe first. -/
inductive Level where
  | trace
  | debug
  | info
  | warn
  deriving DecidableEq, Repr

namespace Level

/-- The rank of a severity. -/
def rank : Level → Nat
  | trace => 0
  | debug => 1
  | info => 2
  | warn => 3

/-- Whether a log opened at `threshold` takes notices of a level. -/
def admits (threshold level : Level) : Bool := decide (threshold.rank ≤ level.rank)

end Level

/-- Something worth telling. -/
inductive Notice where
  | mappedRam
  | mappingFailed (cause : Fault)
  | initialized (mirroring : String)
  | shutDown (mirroring : String)
  | unmappedRead (w : Width) (a : Address)
  | unmappedWrite (w : Width) (a : Address) (v : Value w)
  | readOnlyWrite (a : Address)
  | registersAbsentForRead (w : Width) (a : Address)
  | registersAbsentForWrite (w : Width) (a : Address) (v : Value w)
  | registerRead (bank : String) (w : Width) (a : Address) (v : Value w)
  | registerWrite (bank : String) (w : Width) (a : Address) (v : Value w)
  | ramWritesDisabled (control : BitVec 32)
  | ramWritesEnabled (control : BitVec 32)
  | controlIgnored (control : BitVec 32)
  | sliceWritten (count : Nat) (a : Address)
  | directWriteDropped (index : Nat)
  | directoryUnopened (directory : String) (cause : OsFault)
  | imageNotFound (name : String)
  | hleInUse
  | imageEmpty (path : String)
  | imageShort (path : String) (count : Nat)
  | imageLoaded (path : String)
  | imageUnopened (path : String)
  | imageUnreadable (path : String) (cause : Fault)

namespace Notice

/-- The severity of a notice. -/
def level : Notice → Level
  | mappedRam | initialized _ | directoryUnopened _ _ | imageNotFound _ | hleInUse
  | imageLoaded _ => .info
  | mappingFailed _ | registersAbsentForRead _ _ | registersAbsentForWrite _ _ _ | imageEmpty _
  | imageShort _ _ | imageUnreadable _ _ => .warn
  | shutDown _ | ramWritesDisabled _ | ramWritesEnabled _ | controlIgnored _
  | imageUnopened _ => .debug
  | unmappedRead _ _ | unmappedWrite _ _ _ | readOnlyWrite _ | registerRead _ _ _ _
  | registerWrite _ _ _ _ | sliceWritten _ _ | directWriteDropped _ => .trace

/-- An address or word as eight digits. -/
def longHex (n : Nat) : String := "0x" ++ Text.Hex.padded 8 n

/-- A value without leading zeros. -/
def shortHex (n : Nat) : String := "0x" ++ Text.Hex.upper n

/-- The wording of a notice. -/
def message : Notice → String
  | mappedRam => "Mapped and mirrored RAM through shared file mappings"
  | mappingFailed cause => cause.message ++ "; falling back to table mirrors"
  | initialized mirroring => "Memory initialized (" ++ mirroring ++ " mirrors)"
  | shutDown mirroring => "Memory shut down (" ++ mirroring ++ " mirrors)"
  | unmappedRead w a => "Unmapped read" ++ toString w.bits ++ " at " ++ longHex a.toNat
  | unmappedWrite w a v =>
    "Unmapped write" ++ toString w.bits ++ " at " ++ longHex a.toNat ++ " = " ++
      shortHex v.toNat ++ " dropped"
  | readOnlyWrite a => "Write to read-only page at " ++ longHex a.toNat ++ " ignored"
  | registersAbsentForRead w a =>
    "Hardware register read" ++ toString w.bits ++ " at " ++ longHex a.toNat ++
      " before registers attached"
  | registersAbsentForWrite w a v =>
    "Hardware register write" ++ toString w.bits ++ " at " ++ longHex a.toNat ++ " = " ++
      shortHex v.toNat ++ " before registers attached"
  | registerRead bank w a v =>
    bank ++ " read" ++ toString w.bits ++ " at " ++ longHex a.toNat ++ " -> " ++ longHex v.toNat
  | registerWrite bank w a v =>
    bank ++ " write" ++ toString w.bits ++ " at " ++ longHex a.toNat ++ " = " ++ longHex v.toNat
  | ramWritesDisabled control =>
    "Cache control 0x" ++ Text.Hex.padded 5 control.toNat ++ ": RAM writes disabled"
  | ramWritesEnabled control =>
    "Cache control 0x" ++ Text.Hex.padded 5 control.toNat ++ ": RAM writes enabled"
  | controlIgnored control =>
    "Unrecognized cache control value " ++ longHex control.toNat ++ " (ignored)"
  | sliceWritten count a => "Wrote " ++ toString count ++ " bytes to RAM at " ++ longHex a.toNat
  | directWriteDropped index =>
    "Direct write past end of buffer at 0x" ++ Text.Hex.padded 4 index ++ " dropped"
  | directoryUnopened directory cause =>
    "Could not open BIOS directory \"" ++ directory ++ "\" (" ++ cause.message ++
      "). Enabling HLE BIOS"
  | imageNotFound name => "Could not locate BIOS \"" ++ name ++ "\". Enabling HLE BIOS"
  | hleInUse => "Using HLE emulated BIOS functions. Expect incompatibilities."
  | imageEmpty path => "Skipping empty BIOS file " ++ path
  | imageShort path count =>
    "BIOS file " ++ path ++ " is smaller than expected (" ++ toString count ++ " of " ++
      toString biosSize ++ " bytes)"
  | imageLoaded path => "Loaded BIOS image: " ++ path
  | imageUnopened path => "Could not open BIOS candidate " ++ path
  | imageUnreadable path cause => "Failed to read BIOS file " ++ path ++ ": " ++ cause.message

end Notice

end ConsoleMemory
