import ConsoleMemory.Address
import ConsoleMemory.Text.Hex

/-!
# Faults

What can go wrong while a machine is set up or fed, one constructor per cause. The wording of every
cause is in the `message` functions.
-/

namespace ConsoleMemory

/-- Why the operating system refused a file operation. -/
inductive OsFault where
  | notFound
  | isDirectory
  | notDirectory
  | nameTooLong
  | nulInPath
  deriving DecidableEq, Repr

namespace OsFault

/-- The operating system's text for a refusal. -/
def message : OsFault → String
  | notFound => "No such file or directory (os error 2)"
  | isDirectory => "Is a directory (os error 21)"
  | notDirectory => "Not a directory (os error 20)"
  | nameTooLong => "File name too long (os error 36)"
  | nulInPath => "file name contained an unexpected NUL byte"

end OsFault

/-- Why the contents of a file could not be had. -/
inductive IoFault where
  | os (cause : OsFault)
  | notUtf8
  | other (text : String)
  deriving DecidableEq, Repr

namespace IoFault

/-- The text of a failed input or output. -/
def message : IoFault → String
  | os cause => cause.message
  | notUtf8 => "stream did not contain valid UTF-8"
  | other text => text

end IoFault

/-- Why settings were refused. -/
inductive SettingsFault where
  | unreadable (path : String) (cause : IoFault)
  | malformed (path : String)
  | unwritable (path : String) (cause : IoFault)
  | unknownMirroring (text : String)
  | badFlag (text key : String)
  | other (text : String)
  deriving DecidableEq, Repr

namespace SettingsFault

/-- The text of a refusal of settings. -/
def message : SettingsFault → String
  | unreadable path cause => "failed to read " ++ path ++ ": " ++ cause.message
  | malformed path => "failed to parse " ++ path
  | unwritable path cause => "failed to write " ++ path ++ ": " ++ cause.message
  | unknownMirroring text =>
    "unknown mirror mode '" ++ text ++ "' (expected 'table' or 'aliased')"
  | badFlag text key => "invalid value '" ++ text ++ "' for " ++ key
  | other text => text

end SettingsFault

/-- Everything that can go wrong. -/
inductive Fault where
  | allocation (region : String) (size : Nat)
  | settings (cause : SettingsFault)
  | biosNotFound (path : String)
  | mapping (step : String)
  | invalidAccess (address : Address)
  | io (cause : IoFault)
  deriving DecidableEq, Repr

namespace Fault

/-- The text of a fault. -/
def message : Fault → String
  | allocation region size => "failed to allocate " ++ toString size ++ " bytes for " ++ region
  | settings cause => "configuration error: " ++ cause.message
  | biosNotFound path => "BIOS not found: " ++ path
  | mapping step => "RAM mapping failed: " ++ step
  | invalidAccess address => "invalid memory access at 0x" ++ Text.Hex.padded 8 address.toNat
  | io cause => "I/O error: " ++ cause.message

end Fault

end ConsoleMemory
