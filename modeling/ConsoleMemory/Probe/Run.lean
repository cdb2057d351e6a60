import ConsoleMemory.Memory.Guest
import ConsoleMemory.Probe.Help
import ConsoleMemory.Probe.Packages
import ConsoleMemory.Settings.Override
import ConsoleMemory.Settings.Stored

/-!
# The probe

The probe sets a machine up, resets it and prints how RAM is kept, how the machine booted, and a
line for every address it is asked to peek at: the address, its region and the word there. Settings
come, the later ones first, from the options, the environment, the settings file and the defaults.
-/

namespace ConsoleMemory

namespace Probe

/-- How a run of the probe ends. A failure may be logged; a run is aborted if a variable of the file
`.env` cannot be set. -/
inductive Ending where
  | printed (text : String)
  | failed (cause : Fault) (log : Option String)
  | misused (cause : UsageStop)
  | aborted

/-- A stop as a terminal shows it. -/
def UsageStop.shown : UsageStop → UsageStop
  | refusedValue message =>
    refusedValue (String.ofList (Text.ControlSequence.plain message.toList))
  | cause => cause

/-- Settings as the options want them. -/
def Options.applyTo (options : Options) (settings : Settings) : Settings where
  biosDir := options.biosDir.getD settings.biosDir
  bios := options.bios.getD settings.bios
  hle := options.hle || settings.hle
  mirroring := options.mirroring.getD settings.mirroring

/-- The settings of a run. -/
def settingsFor (options : Options) (files : Files) (vars : Variables) : Except Fault Settings :=
  let stored : Except Fault Settings :=
    match options.config with
    | none => .ok {}
    | some path => Settings.load files path
  match stored with
  | .error cause => .error cause
  | .ok settings =>
    let overridden := settings.override vars.get?
    match overridden.refusal with
    | some cause => .error (.settings cause)
    | none => .ok (options.applyTo overridden.settings)

/-- The line of a peeked address. -/
def peekLine (m : Memory Empty) (a : Address) : String :=
  let value := (m.read .word a).value
  "0x" ++ Text.Hex.padded 8 a.toNat ++ "  " ++ Text.padRight 12 (Region.ofAddress a).name ++
    "  0x" ++ Text.Hex.padded 8 value.toNat ++ "\n"

/-- The lines of peeked addresses, in order, each seen by the machine the ones before leave. -/
def peekLines (m : Memory Empty) : List Address → String
  | [] => ""
  | a :: rest => peekLine m a ++ peekLines (m.read .word a).memory rest

/-- What a machine with given settings prints. -/
def report (settings : Settings) (files : Files) (canMap : Bool) (peeks : List Address) : String :=
  let made := (Memory.create Empty settings.mirroring canMap).memory
  let booted := made.reset settings (files.list settings.biosDir)
  "mirror: " ++ booted.memory.ram.name ++ "\nboot:   " ++ booted.value.1.describe ++ "\n" ++
    peekLines booted.memory peeks

namespace Packages

/-- Runs the probe with the variables of the process and the file `.env`. -/
def runWith (p : Packages) (arguments : List String) (files : Files) (vars : Variables) : Ending :=
  match p.readArguments arguments with
  | .error .help => .printed helpText
  | .error cause => .misused cause.shown
  | .ok options =>
    match settingsFor options files vars with
    | .error cause => .failed cause (p.logged vars cause.message)
    | .ok settings => .printed (report settings files (p.mapsRam files vars) options.peeks)

/-- Runs the probe. -/
def run (p : Packages) (arguments : List String) (files : Files) (vars : Variables) : Ending :=
  match p.loadVariables files vars with
  | none => .aborted
  | some vars => p.runWith arguments files vars

end Packages

namespace Ending

/-- The exit code of an ending. -/
def exitCode : Ending → Nat
  | printed _ => 0
  | failed _ _ => 1
  | misused _ => 2
  | aborted => 101

end Ending

end Probe

end ConsoleMemory
