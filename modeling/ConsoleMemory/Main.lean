import ConsoleMemory.Probe.Run

/-!
# The probe program

Collects the variables and files a run of the probe can ask for, runs it, and prints how it ends.
-/

namespace ConsoleMemory.Probe

/-- The place a path names, with the directories on the way put into the files. -/
def reach (files : Files) (path : String) : Files × Place :=
  let start : Place := if path.toList.head? = some '/' then ["/"] else []
  (Files.splitPath path).foldl
    (fun (files, place) name =>
      let files :=
        match files.node? place with
        | some _ => files
        | none => files.put place .directory
      match files.enter place name with
      | .ok next => (files, next)
      | .error _ => (files, place))
    (files, start)

/-- Puts the file at a path into the files, if it can be read. -/
def collectFile (files : Files) (path : String) : IO Files := do
  let (reached, place) := reach files path
  try
    let bytes ← IO.FS.readBinFile path
    pure (reached.put place (.ofBytes bytes))
  catch _ => pure files

/-- Puts a directory and its entries with the wanted name into the files. -/
def collectDirectory (files : Files) (path wanted : String) : IO Files := do
  let (reached, place) := reach files path
  try
    let here ← IO.currentDir
    let entries ← (here / path).readDir
    let mut files := reached.put place .directory
    for entry in entries do
      if sameName entry.fileName wanted then
        let inside := place ++ [entry.fileName]
        files ← try
            let bytes ← IO.FS.readBinFile entry.path
            pure (files.put inside (.ofBytes bytes))
          catch _ => pure (files.put inside .dangling)
    pure files
  catch _ => pure files

/-- The variables that override settings or choose what is logged. -/
def collectVariables : IO Variables := do
  let mut vars : Variables := []
  for name in LogFilter.variableName :: Settings.Key.all.map (·.envName) do
    if let some value ← IO.getEnv name then
      vars := vars ++ [(name, value)]
  pure vars

/-- The paths of the files `.env` in the working directory and the directories above it. -/
def environmentPaths : IO (List String) := do
  let here ← IO.currentDir
  let up := (List.range here.components.length).map fun n => List.replicate n "../"
  pure (up.map fun steps => String.join steps ++ ".env")

/-- The files a run can ask for. -/
def collectFiles (p : Packages) (arguments : List String) (vars : Variables) : IO Files := do
  let files ← (← environmentPaths).foldlM collectFile {}
  match p.readArguments arguments with
  | .error _ => pure files
  | .ok options =>
    let files ←
      match options.config with
      | some path => collectFile files path
      | none => pure files
    match (p.loadVariables files vars).map (settingsFor options files) with
    | some (.ok settings) => collectDirectory files settings.biosDir settings.bios
    | _ => pure files

/-- Prints how a run ended. -/
def Ending.print (ending : Ending) : IO Unit :=
  match ending with
  | printed text => IO.print text
  | failed _ (some text) => IO.eprintln text
  | failed _ none => pure ()
  | misused (.refusedValue message) => IO.eprintln ("error: " ++ message)
  | misused _ => IO.eprintln "error: the arguments are not understood"
  | aborted => IO.eprintln "error: a variable in .env cannot be set"

end ConsoleMemory.Probe

/-- Runs the probe on the process's arguments, variables and files. -/
def main (arguments : List String) : IO UInt32 := do
  let vars ← ConsoleMemory.Probe.collectVariables
  let p := ConsoleMemory.Probe.Packages.standard true
  let files ← ConsoleMemory.Probe.collectFiles p arguments vars
  let ending := p.run arguments files vars
  ending.print
  pure (UInt32.ofNat ending.exitCode)
