import ConsoleMemory.Environment
import ConsoleMemory.Probe.Log
import ConsoleMemory.Probe.Options

/-!
# What the probe is built on

The probe leaves some of its work to others: reading the command line, adding the variables of the
file `.env`, showing messages in a log and mapping RAM.
-/

namespace ConsoleMemory.Probe

/-- What the probe leaves to others. -/
structure Packages where
  /-- The options of a command line. -/
  readArguments : List String → Except UsageStop Options
  /-- The variables of a process with those of the file `.env`, if these can be set. -/
  loadVariables : Files → Variables → Option Variables
  /-- What the log shows of an error message, if anything. -/
  logged : Variables → String → Option String
  /-- Whether RAM can be mapped. -/
  mapsRam : Files → Variables → Bool

/-- Whether RAM can be mapped where mapping works: the file behind it is made in the directory for
temporary files, which the variable `TMPDIR` may name. -/
def hasRoom (files : Files) (vars : Variables) : Bool :=
  match vars.get? "TMPDIR" with
  | none => true
  | some path => path.isEmpty || files.isDirectory path

/-- The packages of this library, on a machine where mapping works or does not. -/
def Packages.standard (canMap : Bool) : Packages where
  readArguments := Options.read
  loadVariables := EnvironmentFile.load
  logged := Probe.logged
  mapsRam := fun files vars => canMap && hasRoom files vars

end ConsoleMemory.Probe
