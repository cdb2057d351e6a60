import ConsoleMemory.Fault
import ConsoleMemory.Text.Blank

/-!
# Settings

What a machine is set up with: where the boot image is, what it is called, whether to do without
one, and how RAM is kept.
-/

namespace ConsoleMemory

/-- How RAM is made visible at several addresses. -/
inductive Mirroring where
  | table
  | aliased
  deriving DecidableEq, Repr

namespace Mirroring

/-- The name of a way. -/
def name : Mirroring → String
  | table => "table"
  | aliased => "aliased"

/-- The way with exactly this name. -/
def ofName? (text : String) : Option Mirroring :=
  if text = "table" then some table
  else if text = "aliased" then some aliased
  else none

/-- The way a text names, in any ASCII case. -/
def parse (text : String) : Except SettingsFault Mirroring :=
  let lowered := Text.asciiLower text
  match ofName? lowered with
  | some mirroring => .ok mirroring
  | none => .error (.unknownMirroring lowered)

theorem ofName?_name (m : Mirroring) : ofName? m.name = some m := by
  cases m <;> decide

end Mirroring

/-- The settings of a machine. -/
structure Settings where
  biosDir : String := "bios"
  bios : String := "scph1001.bin"
  hle : Bool := false
  mirroring : Mirroring := .table
  deriving DecidableEq, Repr

/-- The settings by name. -/
inductive Settings.Key where
  | biosDir
  | bios
  | hle
  | mirroring
  deriving DecidableEq, Repr

/-- All keys, in the order they are written and asked for. -/
def Settings.Key.all : List Settings.Key := [biosDir, bios, hle, mirroring]

end ConsoleMemory
