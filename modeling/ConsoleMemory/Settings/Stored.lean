import ConsoleMemory.Files
import ConsoleMemory.Settings
import ConsoleMemory.Toml.Table

/-!
# Settings in files

Settings are kept as a TOML document with the keys `bios_dir`, `bios`, `hle` and `mirror`. A
document may leave keys out, which then have their default, and may hold other keys, which are
ignored; a value of the wrong kind is refused.
-/

namespace ConsoleMemory

namespace Mirroring

/-- Whether a value is an empty table or array. -/
def isEmptyNode : Toml.Node → Bool
  | .table _ entries => entries.isEmpty
  | .array items => items.isEmpty
  | _ => false

/-- The way a value names: a string, or a table with the name as its only key and nothing in it. -/
def ofNode? : Toml.Node → Option Mirroring
  | .string text => ofName? (String.ofList text)
  | .table _ [(key, node)] => if isEmptyNode node then ofName? (String.ofList key) else none
  | _ => none

end Mirroring

namespace Settings

/-- The name of a key in a document. -/
def Key.name : Key → List Char
  | biosDir => "bios_dir".toList
  | bios => "bios".toList
  | hle => "hle".toList
  | mirroring => "mirror".toList

/-- A truth value. -/
def boolText (b : Bool) : List Char := if b then "true".toList else "false".toList

/-- The value of a key as written. -/
def valueText (settings : Settings) : Key → List Char
  | .biosDir => Toml.Quoted.write settings.biosDir.toList
  | .bios => Toml.Quoted.write settings.bios.toList
  | .hle => boolText settings.hle
  | .mirroring => Toml.Quoted.write settings.mirroring.name.toList

/-- The line of a key. -/
def itemText (settings : Settings) (key : Key) : List Char :=
  key.name ++ [' ', '=', ' '] ++ settings.valueText key ++ ['\n']

/-- A document with the given keys. -/
def documentText (settings : Settings) (keys : List Key) : List Char :=
  keys.flatMap settings.itemText

/-- Settings as a document. -/
def toToml (settings : Settings) : String := String.ofList (settings.documentText Key.all)

/-- Takes the value of a key over; nothing if it is of the wrong kind. -/
def setNode? (settings : Settings) (key : Key) (node : Toml.Node) : Option Settings :=
  match key, node with
  | .biosDir, .string text => some { settings with biosDir := String.ofList text }
  | .bios, .string text => some { settings with bios := String.ofList text }
  | .hle, .scalar (.boolean b) => some { settings with hle := b }
  | .mirroring, node => (Mirroring.ofNode? node).map fun m => { settings with mirroring := m }
  | _, _ => none

/-- Takes the values of the keys that a table has over. -/
def ofEntries? (entries : Toml.Entries) : Option Settings :=
  Key.all.foldlM
    (fun settings key =>
      match entries.get? key.name with
      | none => some settings
      | some node => settings.setNode? key node)
    {}

/-- Settings from a document. -/
def ofToml? (text : String) : Option Settings :=
  match Toml.Entries.read text.toList with
  | none => none
  | some entries => ofEntries? entries

/-- Loads settings from a file. -/
def load (files : Files) (path : String) : Except Fault Settings :=
  match files.readText path with
  | .error cause => .error (.settings (.unreadable path cause))
  | .ok text =>
    match ofToml? text with
    | none => .error (.settings (.malformed path))
    | some settings => .ok settings

/-- Saves settings to a file. -/
def save (settings : Settings) (files : Files) (path : String) : Except Fault Files :=
  match files.write path settings.toToml.toUTF8 with
  | .error cause => .error (.settings (.unwritable path (.os cause)))
  | .ok files => .ok files

end Settings

end ConsoleMemory
