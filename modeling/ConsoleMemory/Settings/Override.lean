import ConsoleMemory.Settings

/-!
# Overrides of settings

Variables of the environment can override settings. They are asked for in a fixed order; a refused
value ends the asking and keeps what was overridden before.
-/

namespace ConsoleMemory

/-- The variable that overrides a setting. -/
def Settings.Key.envName : Settings.Key → String
  | biosDir => "PSXMEM_BIOS_DIR"
  | bios => "PSXMEM_BIOS"
  | hle => "PSXMEM_HLE"
  | mirroring => "PSXMEM_MIRROR"

/-- A yes or no in one of its spellings, in any ASCII case and with white space around it. -/
def parseFlag (text : String) : Option Bool :=
  let word := Text.asciiLower (String.ofList (Text.trim text.toList))
  if word ∈ ["1", "true", "yes", "on"] then some true
  else if word ∈ ["0", "false", "no", "off"] then some false
  else none

namespace Settings

/-- Overrides one setting with a text. -/
def overrideWith (settings : Settings) (key : Key) (text : String) :
    Except SettingsFault Settings :=
  match key with
  | .biosDir => .ok { settings with biosDir := text }
  | .bios => .ok { settings with bios := text }
  | .hle =>
    match parseFlag text with
    | some hle => .ok { settings with hle }
    | none => .error (.badFlag text Key.hle.envName)
  | .mirroring =>
    match Mirroring.parse text with
    | .ok mirroring => .ok { settings with mirroring }
    | .error cause => .error cause

/-- What overriding leaves behind: the settings, the keys asked for, and the refusal if there was
one. -/
structure Overridden where
  settings : Settings
  asked : List Key
  refusal : Option SettingsFault
  deriving DecidableEq, Repr

/-- Overrides the settings of the given keys in order. -/
def overrideKeys (lookup : String → Option String) (settings : Settings) :
    List Key → Overridden
  | [] => ⟨settings, [], none⟩
  | key :: rest =>
    match lookup key.envName with
    | none =>
      let later := overrideKeys lookup settings rest
      { later with asked := key :: later.asked }
    | some text =>
      match settings.overrideWith key text with
      | .error cause => ⟨settings, [key], some cause⟩
      | .ok settings =>
        let later := overrideKeys lookup settings rest
        { later with asked := key :: later.asked }

/-- Overrides settings by what a lookup of variables finds. -/
def override (settings : Settings) (lookup : String → Option String) : Overridden :=
  overrideKeys lookup settings Key.all

end Settings

end ConsoleMemory
