import ConsoleMemory.Probe.Run
import ConsoleMemory.Proofs.Overrides
import ConsoleMemory.Proofs.Packages
import ConsoleMemory.Proofs.Reader

/-!
# Which settings a run takes

A setting is taken from the command line, else from a variable, else from the settings file, else it
is the default. A file that cannot be loaded ends the run before a variable is looked at, and a
refused variable ends it before the command line is, whatever the command line says.
-/

namespace ConsoleMemory

lemma Settings.Key.isName_envName (key : Settings.Key) : Variables.IsName key.envName := by
  cases key <;> exact ⟨by decide, by decide⟩

namespace Settings

/-! ### The settings file -/

/-- The values in a settings file. A value of the wrong kind keeps the file from being loaded. -/
structure StoredValues where
  biosDir : Option String := none
  bios : Option String := none
  hle : Option Bool := none
  mirroring : Option Mirroring := none
  deriving DecidableEq, Repr

/-- The text that a value is, if it is one. -/
def textOf? : Toml.Node → Option String
  | .string text => some (String.ofList text)
  | _ => none

/-- The flag that a value is, if it is one. -/
def flagOf? : Toml.Node → Option Bool
  | .scalar (.boolean b) => some b
  | _ => none

/-- The way with a name, if there is one. -/
def wayNamed? (name : List Char) : Option Mirroring :=
  if name = "table".toList then some .table
  else if name = "aliased".toList then some .aliased
  else none

/-- The way that a value names, by its text or by the one key of a table, with nothing under it. -/
def wayOf? : Toml.Node → Option Mirroring
  | .string name | .table _ [(name, .table _ [])] | .table _ [(name, .array [])] => wayNamed? name
  | _ => none

namespace StoredValues

/-- The values under the four keys of a document. -/
def ofEntries (entries : Toml.Entries) : StoredValues where
  biosDir := (entries.get? "bios_dir".toList).bind textOf?
  bios := (entries.get? "bios".toList).bind textOf?
  hle := (entries.get? "hle".toList).bind flagOf?
  mirroring := (entries.get? "mirror".toList).bind wayOf?

/-- The values in the file at a path; none without a path. -/
def inFile (files : Files) : Option String → StoredValues
  | none => {}
  | some path =>
    match files.readText path with
    | .error _ => {}
    | .ok text => ((Toml.Entries.read text.toList).map ofEntries).getD {}

/-- Settings with the value for a key, if there is one. -/
def fill (values : StoredValues) (settings : Settings) : Key → Settings
  | .biosDir => { settings with biosDir := values.biosDir.getD settings.biosDir }
  | .bios => { settings with bios := values.bios.getD settings.bios }
  | .hle => { settings with hle := values.hle.getD settings.hle }
  | .mirroring => { settings with mirroring := values.mirroring.getD settings.mirroring }

/-- The default settings with the values there are. -/
def settings (values : StoredValues) : Settings := Key.all.foldl values.fill {}

end StoredValues

lemma StoredValues.ofEntries_eq (entries : Toml.Entries) : ofEntries entries =
    { biosDir := (entries.get? Key.biosDir.name).bind textOf?
      bios := (entries.get? Key.bios.name).bind textOf?
      hle := (entries.get? Key.hle.name).bind flagOf?
      mirroring := (entries.get? Key.mirroring.name).bind wayOf? } := rfl

lemma ofName?_ofList (name : List Char) :
    Mirroring.ofName? (String.ofList name) = wayNamed? name := by
  have hname : ∀ text : String, String.ofList name = text ↔ name = text.toList := by
    intro text
    rw [← String.toList_inj, String.toList_ofList]
  simp only [Mirroring.ofName?, wayNamed?, hname]

lemma ofNode?_eq : ∀ node : Toml.Node, Mirroring.ofNode? node = wayOf? node
  | .string name => ofName?_ofList name
  | .table _ [(name, .table _ [])] | .table _ [(name, .array [])] => ofName?_ofList name
  | .table _ [(_, .table _ (_ :: _))] | .table _ [(_, .array (_ :: _))] => rfl
  | .table _ [(_, .string _)] | .table _ [(_, .scalar _)] | .table _ [(_, .tables _)] => rfl
  | .table _ (_ :: _ :: _) => by simp [Mirroring.ofNode?, wayOf?]
  | .table _ [] | .scalar _ | .array _ | .tables _ => rfl

lemma setNode?_biosDir (settings : Settings) (node : Toml.Node) :
    settings.setNode? .biosDir node =
      (textOf? node).map fun text => { settings with biosDir := text } := by
  cases node <;> rfl

lemma setNode?_bios (settings : Settings) (node : Toml.Node) :
    settings.setNode? .bios node = (textOf? node).map fun text => { settings with bios := text } := by
  cases node <;> rfl

lemma setNode?_hle (settings : Settings) (node : Toml.Node) :
    settings.setNode? .hle node = (flagOf? node).map fun hle => { settings with hle } := by
  cases node with
  | scalar value => cases value <;> rfl
  | string | array | table | tables => rfl

lemma setNode?_mirroring (settings : Settings) (node : Toml.Node) :
    settings.setNode? .mirroring node =
      (wayOf? node).map fun mirroring => { settings with mirroring } := by
  rw [← ofNode?_eq]
  rfl

lemma eq_fill {entries : Toml.Entries} {settings after : Settings} {key : Key}
    (h : (match entries.get? key.name with
      | none => some settings
      | some node => settings.setNode? key node) = some after) :
    after = (StoredValues.ofEntries entries).fill settings key := by
  cases hnode : entries.get? key.name with
  | none =>
    rw [hnode] at h
    obtain rfl := Option.some.inj h
    cases key <;> simp [StoredValues.fill, StoredValues.ofEntries_eq, hnode]
  | some node =>
    rw [hnode] at h
    dsimp only at h
    cases key
    all_goals
      simp only [setNode?_biosDir, setNode?_bios, setNode?_hle, setNode?_mirroring,
        Option.map_eq_some_iff] at h
      obtain ⟨value, hvalue, rfl⟩ := h
      simp [StoredValues.fill, StoredValues.ofEntries_eq, hnode, hvalue]

lemma eq_settings_of_ofEntries? {entries : Toml.Entries} {settings : Settings}
    (h : ofEntries? entries = some settings) :
    settings = (StoredValues.ofEntries entries).settings := by
  simp only [ofEntries?, Key.all, List.foldlM_cons, List.foldlM_nil, Option.bind_eq_bind,
    Option.bind_eq_some_iff, Option.pure_def, Option.some.injEq] at h
  obtain ⟨first, hfirst, second, hsecond, third, hthird, fourth, hfourth, rfl⟩ := h
  rw [eq_fill hfourth, eq_fill hthird, eq_fill hsecond, eq_fill hfirst]
  rfl

lemma eq_settings_of_load {files : Files} {path : String} {settings : Settings}
    (h : load files path = .ok settings) :
    settings = (StoredValues.inFile files (some path)).settings := by
  unfold load at h
  cases htext : files.readText path with
  | error cause =>
    rw [htext] at h
    cases h
  | ok text =>
    rw [htext] at h
    dsimp only [ofToml?] at h
    cases hread : Toml.Entries.read text.toList with
    | none =>
      rw [hread] at h
      cases h
    | some entries =>
      have hvalues : StoredValues.inFile files (some path) = .ofEntries entries := by
        rw [StoredValues.inFile, htext]
        dsimp only
        rw [hread]
        rfl
      rw [hread] at h
      dsimp only at h
      split at h
      · cases h
      case h_2 hentries =>
        obtain rfl := Except.ok.inj h
        rw [hvalues]
        exact eq_settings_of_ofEntries? hentries

end Settings

namespace Probe

open Settings (StoredValues)

/-- The settings of a run by precedence: a value of the command line, of a variable, of the settings
file, and the default. The command line can only ask to do without a boot image. -/
def precedence (items : List Given) (env : String → Option String) (stored : StoredValues) :
    Settings where
  biosDir := (items.findSome? (Given.text? .biosDir)).getD
    ((env "PSXMEM_BIOS_DIR").getD (stored.biosDir.getD "bios"))
  bios := (items.findSome? (Given.text? .bios)).getD
    ((env "PSXMEM_BIOS").getD (stored.bios.getD "scph1001.bin"))
  hle := decide (Given.hle ∈ items) ||
    ((env "PSXMEM_HLE").bind parseFlag).getD (stored.hle.getD false)
  mirroring := ((items.findSome? (Given.text? .mirroring)).bind Settings.mirroringOf?).getD
    (((env "PSXMEM_MIRROR").bind Settings.mirroringOf?).getD (stored.mirroring.getD .table))

/-- What a run puts out other than to its log. -/
def Ending.output : Ending → String
  | printed text => text
  | failed _ _ | misused _ | aborted => ""

/-- A run that ends with a fault, which is at most logged. -/
structure Ending.FailsWith (ending : Ending) (cause : Fault) : Prop where
  eq_failed : ∃ log, ending = .failed cause log
  exitCode_eq : ending.exitCode = 1
  output_eq : ending.output = ""

lemma Options.mirroring_eq_bind {options : Options} {items : List Given}
    (h : options.GivenBy items) :
    options.mirroring =
      (items.findSome? (Given.text? .mirroring)).bind Settings.mirroringOf? := by
  have hgiven := h.mirroring
  cases htext : items.findSome? (Given.text? .mirroring) with
  | none => simpa [htext] using hgiven
  | some text =>
    rw [htext, Option.map_some] at hgiven
    obtain ⟨way, hway, hread⟩ := Option.map_eq_some_iff.1 hgiven
    unfold Options.readMirroring at hread
    rw [hway, Option.bind_some, Settings.mirroringOf?]
    cases hparse : Mirroring.parse text with
    | error cause =>
      rw [hparse] at hread
      cases hread
    | ok named =>
      rw [hparse] at hread
      exact congrArg some (Except.ok.inj hread)

/-- The options have the last word on settings that variables were applied to. -/
lemma applyTo_eq_precedence {options : Options} {items : List Given} (h : options.GivenBy items)
    (env : String → Option String) (stored : StoredValues) :
    options.applyTo
      { biosDir := (env "PSXMEM_BIOS_DIR").getD stored.settings.biosDir
        bios := (env "PSXMEM_BIOS").getD stored.settings.bios
        hle := ((env "PSXMEM_HLE").bind parseFlag).getD stored.settings.hle
        mirroring :=
          ((env "PSXMEM_MIRROR").bind Settings.mirroringOf?).getD stored.settings.mirroring } =
      precedence items env stored := by
  have hhle : options.hle = decide (Given.hle ∈ items) := by
    rw [Bool.eq_iff_iff, h.hle, decide_eq_true_iff]
  unfold Options.applyTo
  rw [h.biosDir, h.bios, hhle, Options.mirroring_eq_bind h]
  rfl

/-- The command line has its say only when the file was loaded and no variable was refused. -/
lemma outcome_override (options : Options) (vars : Variables) (settings : Settings) :
    (match (settings.override vars.get?).refusal with
      | some cause => .error (.settings cause)
      | none => .ok (options.applyTo (settings.override vars.get?).settings)) =
    ((settings.override vars.get?).result.mapError Fault.settings).map options.applyTo := by
  unfold Settings.Overridden.result
  cases (settings.override vars.get?).refusal <;> rfl

lemma settingsFor_eq {options : Options} {files : Files} (vars : Variables)
    (h : ∀ path ∈ options.config, ∃ settings, Settings.load files path = .ok settings) :
    settingsFor options files vars =
      ((Settings.Key.all.foldlM (Settings.overrideOne fun key => vars.get? key.envName)
        (StoredValues.inFile files options.config).settings).mapError Fault.settings).map
          options.applyTo := by
  rw [← Settings.result_overrideKeys]
  unfold settingsFor
  cases hconfig : options.config with
  | none => exact outcome_override options vars {}
  | some path =>
    obtain ⟨settings, hload⟩ := h path hconfig
    rw [← Settings.eq_settings_of_load hload]
    dsimp only
    rw [hload]
    exact outcome_override options vars settings

lemma settingsFor_of_load_error {options : Options} {files : Files} (vars : Variables)
    {path : String} {cause : Fault} (hpath : options.config = some path)
    (h : Settings.load files path = .error cause) :
    settingsFor options files vars = .error cause := by
  unfold settingsFor
  rw [hpath]
  dsimp only
  rw [h]

variable {p : Packages} {arguments : List String} {options : Options} {files : Files}
  {vars after : Variables}

section Runs

variable (hvars : p.loadVariables files vars = some after)
  (hoptions : p.readArguments arguments = .ok options)

include hvars hoptions

lemma failsWith_of_settingsFor {cause : Fault}
    (h : settingsFor options files after = .error cause) :
    (p.run arguments files vars).FailsWith cause := by
  have hrun : p.run arguments files vars = .failed cause (p.logged after cause.message) := by
    simp [Packages.run, Packages.runWith, hvars, hoptions, h]
  constructor
  · exact ⟨_, hrun⟩
  · rw [hrun, Ending.exitCode]
  · rw [hrun, Ending.output]

lemma run_of_settingsFor {settings : Settings}
    (h : settingsFor options files after = .ok settings) :
    p.run arguments files vars =
      .printed (report settings files (p.mapsRam files after) options.peeks) := by
  simp [Packages.run, Packages.runWith, hvars, hoptions, h]

end Runs

/-- A run of an accepted command line, with a file `.env` whose values can be set. A settings file
that cannot be loaded ends it with that fault, whatever the variables are. A refused variable ends
it too, the one for `hle` first, even if the command line gives the setting. Otherwise a machine is
made and reset with the settings by precedence, and the run prints what it shows. -/
theorem run_follows_precedence {envFile : Files → Variables → String → Option String}
    (hp : p.Documented envFile) (hoptions : p.readArguments arguments = .ok options)
    (hvars : p.loadVariables files vars = some after) :
    let items := given arguments
    let env := fun name => (vars.get? name).or (envFile files vars name)
    let config := items.findSome? (Given.text? .config)
    let settings := precedence items env (StoredValues.inFile files config)
    let ending := p.run arguments files vars
    let Loads := ∀ path ∈ config, ∃ stored, Settings.load files path = .ok stored
    let FlagRead := ∀ text ∈ env "PSXMEM_HLE", (parseFlag text).isSome
    let WayRead := ∀ text ∈ env "PSXMEM_MIRROR", ∃ way, Mirroring.parse text = .ok way
    (∀ path ∈ config, ∀ cause, Settings.load files path = .error cause →
      ending.FailsWith cause) ∧
    (Loads → ∀ text ∈ env "PSXMEM_HLE", parseFlag text = none →
      ending.FailsWith (.settings (.badFlag text "PSXMEM_HLE"))) ∧
    (Loads → FlagRead → ∀ text ∈ env "PSXMEM_MIRROR", ∀ cause,
      Mirroring.parse text = .error cause → ending.FailsWith (.settings cause)) ∧
    (Loads → FlagRead → WayRead →
      let made := (Memory.create Empty settings.mirroring (p.mapsRam files after)).memory
      let booted := made.reset settings (files.list settings.biosDir)
      ∃ peeks : List Address,
        peeks.map Except.ok = (peekTexts arguments).map Options.readPeek ∧
        ending = .printed ("mirror: " ++ booted.memory.ram.name ++ "\nboot:   " ++
          booted.value.1.describe ++ "\n" ++ peekLines booted.memory peeks)) := by
  intro items env config settings ending Loads FlagRead WayRead
  have hgiven : options.GivenBy items := hp.givenBy hoptions
  have hconfig : options.config = config := hgiven.config
  have henv : (fun key : Settings.Key => after.get? key.envName) = fun key => env key.envName :=
    funext fun key => hp.get?_eq hvars key.isName_envName
  have hsettings : Loads → settingsFor options files after =
      ((Settings.Key.all.foldlM (Settings.overrideOne fun key => env key.envName)
        (StoredValues.inFile files config).settings).mapError Fault.settings).map
          options.applyTo := by
    intro hloads
    rw [← henv, ← hconfig]
    refine settingsFor_eq after ?_
    rwa [hconfig]
  refine ⟨?_, ?_, ?_, ?_⟩
  · intro path hpath cause hload
    exact failsWith_of_settingsFor hvars hoptions
      (settingsFor_of_load_error after (hconfig.trans hpath) hload)
  · intro hloads text htext hbad
    apply failsWith_of_settingsFor hvars hoptions
    rw [hsettings hloads, Settings.foldlM_overrideOne_badFlag _ htext hbad]
    rfl
  · intro hloads hflag text htext cause hbad
    apply failsWith_of_settingsFor hvars hoptions
    rw [hsettings hloads, Settings.foldlM_overrideOne_unknownMirroring _ hflag htext hbad]
    rfl
  · intro hloads hflag hway made booted
    have hfor : settingsFor options files after = .ok settings := by
      rw [hsettings hloads, Settings.foldlM_overrideOne _ hflag hway]
      exact congrArg Except.ok (applyTo_eq_precedence hgiven env _)
    exact ⟨options.peeks, hgiven.peeks, run_of_settingsFor hvars hoptions hfor⟩

/-- A settings file and a file `.env` in the directory above it. -/
def layered : Files where
  nodes := [(["..", ".env"], .ofBytes "PSXMEM_HLE=off\n".toUTF8),
    (["memory.toml"], .ofBytes "bios_dir = \"roms\"\nhle = true\n".toUTF8)]

lemma lineTexts_layered : EnvironmentFile.joinLines [] .plain
    (EnvironmentFile.lineTexts (.ofBytes "PSXMEM_HLE=off\n".toUTF8)) =
      [some "PSXMEM_HLE=off".toList] := by decide +kernel

lemma readLine_layered :
    EnvironmentFile.readLine [("PSXMEM_BIOS", "own.bin")] "PSXMEM_HLE=off".toList =
      .assignment "PSXMEM_HLE" "off" := by decide +kernel

lemma assigned_layered : EnvironmentFile.assigned layered [("PSXMEM_BIOS", "own.bin")] =
    [("PSXMEM_HLE", "off")] := by
  have hfound : EnvironmentFile.find? layered = some (.ofBytes "PSXMEM_HLE=off\n".toUTF8) := rfl
  rw [EnvironmentFile.assigned, hfound]
  dsimp only
  rw [lineTexts_layered, EnvironmentFile.assignments, readLine_layered]
  rfl

lemma load_layered : EnvironmentFile.load layered [("PSXMEM_BIOS", "own.bin")] =
    some [("PSXMEM_BIOS", "own.bin"), ("PSXMEM_HLE", "off")] := by
  have hfound : EnvironmentFile.find? layered = some (.ofBytes "PSXMEM_HLE=off\n".toUTF8) := rfl
  rw [EnvironmentFile.load, hfound]
  dsimp only
  rw [EnvironmentFile.apply, lineTexts_layered, EnvironmentFile.applyLines, readLine_layered]
  rfl

lemma readText_layered :
    layered.readText "memory.toml" = .ok "bios_dir = \"roms\"\nhle = true\n" := by
  have hopened : layered.openPath "memory.toml" =
      .reader (.ofBytes "bios_dir = \"roms\"\nhle = true\n".toUTF8) := rfl
  have hdecode : String.fromUTF8? "bios_dir = \"roms\"\nhle = true\n".toUTF8 =
      some "bios_dir = \"roms\"\nhle = true\n" := dif_pos (String.isValidUTF8 _)
  rw [Files.readText, Files.readBytes, hopened]
  dsimp only
  rw [Reader.contents_ofBytes]
  dsimp only
  rw [hdecode]

lemma inFile_layered : StoredValues.inFile layered (some "memory.toml") =
    { biosDir := some "roms", hle := some true } := by
  rw [StoredValues.inFile, readText_layered]
  decide +kernel

lemma load_memory_layered :
    Settings.load layered "memory.toml" = .ok { biosDir := "roms", hle := true } := by
  have hread : Settings.ofToml? "bios_dir = \"roms\"\nhle = true\n" =
      some { biosDir := "roms", hle := true } := by decide +kernel
  rw [Settings.load, readText_layered]
  dsimp only
  rw [hread]

/-- The way RAM is kept is from the command line, the name from the process, `hle` from the file
`.env`, which turns off what the settings file turns on, and the directory, which is not there, from
the settings file. -/
theorem run_follows_precedence_layered :
    let p := Packages.standard true
    let vars : Variables := [("PSXMEM_BIOS", "own.bin")]
    let arguments := ["--config=memory.toml", "--mirror", "Aliased"]
    let options : Options := { config := some "memory.toml", mirroring := some .aliased }
    p.Documented EnvironmentFile.value? ∧ p.readArguments arguments = .ok options ∧
    p.loadVariables layered vars = some [("PSXMEM_BIOS", "own.bin"), ("PSXMEM_HLE", "off")] ∧
    precedence (given arguments)
      (fun name => (vars.get? name).or (EnvironmentFile.value? layered vars name))
      (StoredValues.inFile layered (some "memory.toml")) =
        { biosDir := "roms", bios := "own.bin", hle := false, mirroring := .aliased } ∧
    p.run arguments layered vars =
      .printed "mirror: aliased\nboot:   HLE (BIOS directory not found)\n" := by
  intro p vars arguments options
  have hp : p.Documented EnvironmentFile.value? := Packages.standard_documented true
  have hoptions : p.readArguments arguments = .ok options := rfl
  have henv : (fun name => (vars.get? name).or (EnvironmentFile.value? layered vars name)) =
      fun name => (vars.get? name).or ([("PSXMEM_HLE", "off")].lookup name) := by
    funext name
    rw [EnvironmentFile.value?, assigned_layered]
  have hsettings : precedence (given arguments)
      (fun name => (vars.get? name).or (EnvironmentFile.value? layered vars name))
      (StoredValues.inFile layered (some "memory.toml")) =
        { biosDir := "roms", bios := "own.bin", hle := false, mirroring := .aliased } := by
    rw [henv, inFile_layered]
    rfl
  have hvars : p.loadVariables layered vars =
      some [("PSXMEM_BIOS", "own.bin"), ("PSXMEM_HLE", "off")] := load_layered
  obtain ⟨-, -, -, hrun⟩ := run_follows_precedence hp hoptions hvars
  refine ⟨hp, hoptions, hvars, hsettings, ?_⟩
  have hconfig : (given arguments).findSome? (Given.text? .config) = some "memory.toml" := rfl
  rw [hconfig, hsettings] at hrun
  have hloads : ∀ path ∈ some "memory.toml", ∃ stored, Settings.load layered path = .ok stored :=
    fun path hpath => ⟨_, Option.some.inj hpath ▸ load_memory_layered⟩
  obtain ⟨peeks, hpeeks, hprinted⟩ := hrun hloads (by rw [henv]; decide)
    (by rw [henv]; rintro text ⟨⟩)
  obtain rfl : peeks = [] := List.map_eq_nil_iff.1 hpeeks
  rw [hprinted]
  rfl

end Probe

end ConsoleMemory
