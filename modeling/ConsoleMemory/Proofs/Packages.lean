import ConsoleMemory.Probe.Packages
import ConsoleMemory.Proofs.CommandLine
import ConsoleMemory.Proofs.EnvironmentFile

/-!
# What packages promise

The results about the probe hold with any packages that do what is known of them: a command line
that is accepted leads to the options it gives, and variables that are set win over the file `.env`.
The packages of this library do.
-/

namespace ConsoleMemory.Probe

/-- What packages promise, where `envFile` is the value that the file `.env` has for a variable. -/
structure Packages.Documented (p : Packages)
    (envFile : Files → Variables → String → Option String) : Prop where
  /-- An option is given with its value as the next argument or joined to it. -/
  givenBy {arguments : List String} {options : Options} :
    p.readArguments arguments = .ok options → options.GivenBy (given arguments)
  /-- A variable of the process keeps its value, another one gets that in the file. -/
  get?_eq {files : Files} {vars after : Variables} {name : String} :
    p.loadVariables files vars = some after → Variables.IsName name →
      after.get? name = (vars.get? name).or (envFile files vars name)

/-- Command lines and the file `.env` are read here as packages promise. -/
theorem Packages.standard_documented (canMap : Bool) :
    (standard canMap).Documented EnvironmentFile.value? where
  givenBy h := Options.givenBy_of_read h
  get?_eq h hname := EnvironmentFile.get?_of_load hname h

end ConsoleMemory.Probe
