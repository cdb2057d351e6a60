import ConsoleMemory.Settings
import ConsoleMemory.Text.AddressText

/-!
# Options of the probe

The command line of the probe: options with a value (`--config`, `--bios-dir`, `--bios`, `--mirror`,
each at most once, and `--peek`, any number of times) and the switch `--hle`. A value is joined by
an equals sign or is the next argument, unless that starts with a dash and is longer than one. A
value that is the next argument is only looked at when the next option, or the end, is reached.
Asking for help, by `--help` or `-h`, ends the reading.
-/

namespace ConsoleMemory.Probe

/-- What a command line asks for. -/
structure Options where
  config : Option String := none
  biosDir : Option String := none
  bios : Option String := none
  hle : Bool := false
  mirroring : Option Mirroring := none
  peeks : List Address := []
  deriving DecidableEq, Repr

/-- An option that takes a value. -/
inductive OptionName where
  | config
  | biosDir
  | bios
  | mirroring
  | peek
  deriving DecidableEq, Repr

/-- Why a command line is not run: it asks for help, it is not of the right form, or a value is not
what its option takes. -/
inductive UsageStop where
  | help
  | malformed
  | refusedValue (message : String)
  deriving DecidableEq, Repr

namespace Options

/-- A path must not be empty. -/
def readPath (text : String) : Except UsageStop String :=
  if text = "" then .error .malformed else .ok text

/-- The mirroring an option names. -/
def readMirroring (text : String) : Except UsageStop Mirroring :=
  match Mirroring.parse text with
  | .ok mirroring => .ok mirroring
  | .error cause => .error (.refusedValue (Fault.settings cause).message)

/-- The address an option gives. -/
def readPeek (text : String) : Except UsageStop Address :=
  match Text.AddressText.read text.toList with
  | .ok a => .ok a
  | .error cause => .error (.refusedValue (Text.AddressText.refusal text cause))

/-- Whether an option that may be given once is there already. -/
def isGiven (options : Options) : OptionName → Bool
  | .config => options.config.isSome
  | .biosDir => options.biosDir.isSome
  | .bios => options.bios.isSome
  | .mirroring => options.mirroring.isSome
  | .peek => false

/-- Takes the value of an option over. -/
def accept (options : Options) (name : OptionName) (text : String) : Except UsageStop Options :=
  if options.isGiven name then .error .malformed
  else
    match name with
    | .config => (readPath text).map fun path => { options with config := some path }
    | .biosDir => (readPath text).map fun path => { options with biosDir := some path }
    | .bios => .ok { options with bios := some text }
    | .mirroring => (readMirroring text).map fun m => { options with mirroring := some m }
    | .peek => (readPeek text).map fun a => { options with peeks := options.peeks ++ [a] }

end Options

/-- An option whose value is not taken over yet, and the value if it has come. -/
structure Pending where
  name : OptionName
  value : Option String

/-- The reader of a command line. After a lone `--` nothing may follow. -/
structure OptionReader where
  options : Options := {}
  pending : Option Pending := none
  closed : Bool := false

namespace OptionReader

/-- The option of a name. -/
def nameOf? (name : List Char) : Option OptionName :=
  if name = "config".toList then some .config
  else if name = "bios-dir".toList then some .biosDir
  else if name = "bios".toList then some .bios
  else if name = "mirror".toList then some .mirroring
  else if name = "peek".toList then some .peek
  else none

/-- Takes the pending value over. -/
def settle (reader : OptionReader) : Except UsageStop Options :=
  match reader.pending with
  | none => .ok reader.options
  | some ⟨_, none⟩ => .error .malformed
  | some ⟨name, some text⟩ => reader.options.accept name text

/-- A request for help, after what is pending. -/
def readHelp (reader : OptionReader) : Except UsageStop OptionReader :=
  match reader.settle with
  | .error cause => .error cause
  | .ok _ => .error .help

/-- A long option: its name and, after an equals sign, its value. -/
def readLong (reader : OptionReader) (name : List Char) (value : Option (List Char)) :
    Except UsageStop OptionReader :=
  match nameOf? name with
  | some name =>
    match reader.settle with
    | .error cause => .error cause
    | .ok options =>
      match value with
      | none => .ok { options, pending := some ⟨name, none⟩ }
      | some text => (options.accept name (String.ofList text)).map fun options => { options }
  | none =>
    if value ≠ none then .error .malformed
    else if name = "hle".toList then
      match reader.settle with
      | .error cause => .error cause
      | .ok options =>
        if options.hle then .error .malformed else .ok { options := { options with hle := true } }
    else if name = "help".toList then reader.readHelp
    else .error .malformed

/-- An argument that is no option: the value that is waited for. -/
def readValue (reader : OptionReader) (text : List Char) : Except UsageStop OptionReader :=
  match reader.pending with
  | some ⟨name, none⟩ => .ok { reader with pending := some ⟨name, some (String.ofList text)⟩ }
  | _ => .error .malformed

/-- The part before the first equals sign and the part after it, if there is one. -/
def splitEquals (cs : List Char) : List Char × Option (List Char) :=
  match cs.dropWhile (· != '=') with
  | [] => (cs, none)
  | _ :: value => (cs.takeWhile (· != '='), some value)

/-- One argument. -/
def readArgument (reader : OptionReader) (argument : String) : Except UsageStop OptionReader :=
  if reader.closed then .error .malformed
  else
    match argument.toList with
    | ['-', '-'] => .ok { reader with closed := true }
    | '-' :: '-' :: rest =>
      let (name, value) := splitEquals rest
      reader.readLong name value
    | ['-'] => reader.readValue ['-']
    | '-' :: 'h' :: _ => reader.readHelp
    | '-' :: _ => .error .malformed
    | text => reader.readValue text

end OptionReader

/-- Reads a command line. -/
def Options.read (arguments : List String) : Except UsageStop Options :=
  match arguments.foldlM OptionReader.readArgument {} with
  | .error cause => .error cause
  | .ok reader => reader.settle

end ConsoleMemory.Probe
