import ConsoleMemory.Settings.Override
import Mathlib.Tactic.Common

/-!
# What overriding leaves behind

Variables are asked for in a fixed order up to the first that is refused. Those before it have their
say even then, those after it are not asked for, and asking again changes nothing more.
-/

namespace ConsoleMemory

/-- The words for yes and for no. -/
def flagWords : Bool → List String
  | true => ["1", "true", "yes", "on"]
  | false => ["0", "false", "no", "off"]

/-- A flag by one of its words, in any ASCII case and with white space around it. -/
def SpellsFlag (text : String) (b : Bool) : Prop :=
  Text.asciiLower (String.ofList (Text.trim text.toList)) ∈ flagWords b

/-- A way to keep RAM by its name, in any ASCII case but with nothing around it. -/
def SpellsWay (text : String) (way : Mirroring) : Prop := Text.asciiLower text = way.name

/-- A setting is what the text given for it says, or what it was if none is given. -/
def Follows {α : Type} (reads : String → α → Prop) (given : Option String) (before after : α) :
    Prop :=
  match given with
  | none => after = before
  | some text => reads text after

/-- There is a text for the flag, and it is none. -/
def RefusesFlag (lookup : String → Option String) : Prop :=
  ∃ text ∈ lookup "PSXMEM_HLE", ∀ b, ¬SpellsFlag text b

/-- There is a text for the way to keep RAM, and it names none. -/
def RefusesWay (lookup : String → Option String) : Prop :=
  ∃ text ∈ lookup "PSXMEM_MIRROR", ∀ way, ¬SpellsWay text way

lemma parseFlag_eq_some_iff (text : String) (b : Bool) :
    parseFlag text = some b ↔ SpellsFlag text b := by
  have hapart : ∀ word ∈ flagWords true, word ∉ flagWords false := by decide
  unfold parseFlag SpellsFlag
  dsimp only
  split
  case isTrue hyes => cases b <;> simp [flagWords] at hyes hapart ⊢ <;> grind
  case isFalse hyes => cases b <;> simp [flagWords] at hyes ⊢ <;> grind

lemma parseFlag_eq_none_iff (text : String) :
    parseFlag text = none ↔ ∀ b, ¬SpellsFlag text b := by
  rw [Option.eq_none_iff_forall_ne_some]
  exact forall_congr' fun b => not_congr (parseFlag_eq_some_iff text b)

namespace Mirroring

lemma ofName?_eq_some_iff (text : String) (way : Mirroring) :
    ofName? text = some way ↔ text = way.name := by
  constructor
  · intro h
    unfold ofName? at h
    split at h
    · obtain rfl := Option.some.inj h
      assumption
    · split at h
      · obtain rfl := Option.some.inj h
        assumption
      · cases h
  · rintro rfl
    exact ofName?_name way

lemma parse_eq_ok_iff (text : String) (way : Mirroring) :
    parse text = .ok way ↔ SpellsWay text way := by
  unfold parse SpellsWay
  rw [← ofName?_eq_some_iff]
  dsimp only
  cases ofName? (Text.asciiLower text) <;> simp

lemma parse_eq_error_of_not {text : String} (h : ∀ way, ¬SpellsWay text way) :
    parse text = .error (.unknownMirroring (Text.asciiLower text)) := by
  unfold parse
  dsimp only
  cases hname : ofName? (Text.asciiLower text) with
  | none => rfl
  | some way => exact absurd ((ofName?_eq_some_iff _ way).1 hname) (h way)

end Mirroring

namespace Settings

/-- The settings that overriding ends with, unless a value was refused. -/
def Overridden.result (overridden : Overridden) : Except SettingsFault Settings :=
  match overridden.refusal with
  | some cause => .error cause
  | none => .ok overridden.settings

/-- Overrides one setting, if there is a text for it. -/
def overrideOne (env : Key → Option String) (settings : Settings) (key : Key) :
    Except SettingsFault Settings :=
  match env key with
  | none => .ok settings
  | some text => settings.overrideWith key text

theorem result_overrideKeys (lookup : String → Option String) (keys : List Key) :
    ∀ settings, (overrideKeys lookup settings keys).result =
      keys.foldlM (overrideOne fun key => lookup key.envName) settings := by
  induction keys with
  | nil => exact fun settings => rfl
  | cons key rest ih =>
    intro settings
    rw [List.foldlM_cons, overrideKeys, overrideOne]
    cases hlookup : lookup key.envName with
    | none => exact ih settings
    | some text =>
      dsimp only
      cases settings.overrideWith key text with
      | error cause => rfl
      | ok next => exact ih next

/-- The way to keep RAM that a text names, if it names one. -/
def mirroringOf? (text : String) : Option Mirroring := (Mirroring.parse text).toOption

variable {env : Key → Option String} (settings : Settings)

lemma overrideOne_biosDir : overrideOne env settings .biosDir =
    .ok { settings with biosDir := (env .biosDir).getD settings.biosDir } := by
  unfold overrideOne
  cases env .biosDir <;> rfl

lemma overrideOne_bios : overrideOne env settings .bios =
    .ok { settings with bios := (env .bios).getD settings.bios } := by
  unfold overrideOne
  cases env .bios <;> rfl

lemma overrideOne_badFlag {text : String} (h : env .hle = some text)
    (hbad : parseFlag text = none) :
    overrideOne env settings .hle = .error (.badFlag text Key.hle.envName) := by
  simp [overrideOne, overrideWith, h, hbad]

lemma overrideOne_hle (h : ∀ text ∈ env .hle, (parseFlag text).isSome) :
    overrideOne env settings .hle =
      .ok { settings with hle := ((env .hle).bind parseFlag).getD settings.hle } := by
  unfold overrideOne
  cases htext : env .hle with
  | none => rfl
  | some text =>
    obtain ⟨b, hb⟩ := Option.isSome_iff_exists.1 (h text htext)
    simp [overrideWith, hb]

lemma overrideOne_unknownMirroring {text : String} {cause : SettingsFault}
    (h : env .mirroring = some text) (hbad : Mirroring.parse text = .error cause) :
    overrideOne env settings .mirroring = .error cause := by
  simp [overrideOne, overrideWith, h, hbad]

lemma overrideOne_mirroring (h : ∀ text ∈ env .mirroring, ∃ way, Mirroring.parse text = .ok way) :
    overrideOne env settings .mirroring =
      .ok { settings with
        mirroring := ((env .mirroring).bind mirroringOf?).getD settings.mirroring } := by
  unfold overrideOne
  cases htext : env .mirroring with
  | none => rfl
  | some text =>
    obtain ⟨way, hway⟩ := h text htext
    simp [overrideWith, mirroringOf?, hway, Except.toOption]

lemma foldlM_overrideOne_badFlag {text : String} (h : env .hle = some text)
    (hbad : parseFlag text = none) :
    Key.all.foldlM (overrideOne env) settings =
      .error (.badFlag text Key.hle.envName) := by
  simp only [Key.all, List.foldlM_cons, overrideOne_biosDir, overrideOne_bios,
    overrideOne_badFlag _ h hbad]
  rfl

lemma foldlM_overrideOne_unknownMirroring {text : String} {cause : SettingsFault}
    (hflag : ∀ text ∈ env .hle, (parseFlag text).isSome) (h : env .mirroring = some text)
    (hbad : Mirroring.parse text = .error cause) :
    Key.all.foldlM (overrideOne env) settings = .error cause := by
  simp only [Key.all, List.foldlM_cons, overrideOne_biosDir, overrideOne_bios,
    overrideOne_hle _ hflag, overrideOne_unknownMirroring _ h hbad]
  rfl

lemma foldlM_overrideOne (hflag : ∀ text ∈ env .hle, (parseFlag text).isSome)
    (hway : ∀ text ∈ env .mirroring, ∃ way, Mirroring.parse text = .ok way) :
    Key.all.foldlM (overrideOne env) settings = .ok
      { biosDir := (env .biosDir).getD settings.biosDir
        bios := (env .bios).getD settings.bios
        hle := ((env .hle).bind parseFlag).getD settings.hle
        mirroring := ((env .mirroring).bind mirroringOf?).getD settings.mirroring } := by
  simp only [Key.all, List.foldlM_cons, List.foldlM_nil, overrideOne_biosDir,
    overrideOne_bios, overrideOne_hle _ hflag, overrideOne_mirroring _ hway]
  rfl

/-! ### What is left behind -/

section Lookup

variable {lookup : String → Option String} {settings next : Settings} {key : Key}
  {rest : List Key}

lemma overrideKeys_cons_of_ok
    (h : overrideOne (fun key => lookup key.envName) settings key = .ok next) :
    overrideKeys lookup settings (key :: rest) =
      { overrideKeys lookup next rest with
        asked := key :: (overrideKeys lookup next rest).asked } := by
  rw [overrideOne] at h
  rw [overrideKeys]
  cases hfound : lookup key.envName with
  | none =>
    simp only [hfound, Except.ok.injEq] at h
    rw [h]
  | some text =>
    simp only [hfound] at h
    simp only [h]

lemma overrideKeys_cons_of_error {cause : SettingsFault}
    (h : overrideOne (fun key => lookup key.envName) settings key = .error cause) :
    overrideKeys lookup settings (key :: rest) = ⟨settings, [key], some cause⟩ := by
  rw [overrideOne] at h
  rw [overrideKeys]
  cases hfound : lookup key.envName with
  | none => simp [hfound] at h
  | some text =>
    simp only [hfound] at h
    simp only [h]

/-- Nothing depends on what would have been found for a key that is not asked for. -/
theorem overrideKeys_congr {other : String → Option String} (keys : List Key) :
    ∀ settings, (∀ key ∈ (overrideKeys lookup settings keys).asked,
      other key.envName = lookup key.envName) →
        overrideKeys other settings keys = overrideKeys lookup settings keys := by
  induction keys with
  | nil => exact fun _ _ => rfl
  | cons key rest ih =>
    intro settings hasked
    have hone : other key.envName = lookup key.envName →
        overrideOne (fun key => other key.envName) settings key =
          overrideOne (fun key => lookup key.envName) settings key := by
      intro hfirst
      rw [overrideOne, overrideOne, hfirst]
    cases hfirst : overrideOne (fun key => lookup key.envName) settings key with
    | error cause =>
      rw [overrideKeys_cons_of_error hfirst] at hasked ⊢
      exact overrideKeys_cons_of_error ((hone (hasked key List.mem_cons_self)).trans hfirst)
    | ok next =>
      rw [overrideKeys_cons_of_ok hfirst] at hasked ⊢
      rw [overrideKeys_cons_of_ok ((hone (hasked key List.mem_cons_self)).trans hfirst),
        ih next fun later hlater => hasked later (List.mem_cons_of_mem key hlater)]

end Lookup

variable (lookup : String → Option String)

/-- Settings with the texts found for the image and its directory, which are never refused. -/
def named : Settings :=
  { settings with
    biosDir := (lookup "PSXMEM_BIOS_DIR").getD settings.biosDir
    bios := (lookup "PSXMEM_BIOS").getD settings.bios }

/-- The flag too is what was found for it. -/
def flagged : Settings :=
  { settings.named lookup with
    hle := ((lookup "PSXMEM_HLE").bind parseFlag).getD settings.hle }

/-- All settings are what was found for them. -/
def overridden : Settings :=
  { settings.flagged lookup with
    mirroring := ((lookup "PSXMEM_MIRROR").bind mirroringOf?).getD settings.mirroring }

lemma named_named : (settings.named lookup).named lookup = settings.named lookup := by
  unfold named
  cases lookup "PSXMEM_BIOS_DIR" <;> cases lookup "PSXMEM_BIOS" <;> rfl

lemma flagged_flagged : (settings.flagged lookup).flagged lookup = settings.flagged lookup := by
  have hnamed := settings.named_named lookup
  simp only [named, mk.injEq, and_true] at hnamed
  cases hflag : (lookup "PSXMEM_HLE").bind parseFlag <;> simp [flagged, named, hnamed, hflag]

lemma overridden_overridden :
    (settings.overridden lookup).overridden lookup = settings.overridden lookup := by
  have hflagged := settings.flagged_flagged lookup
  simp only [flagged, named, mk.injEq, and_true] at hflagged
  cases hway : (lookup "PSXMEM_MIRROR").bind mirroringOf? <;>
    simp [overridden, flagged, named, hflagged, hway]

variable {lookup}

lemma override_eq_named : settings.override lookup =
    { overrideKeys lookup (settings.named lookup) [.hle, .mirroring] with
      asked := .biosDir :: .bios ::
        (overrideKeys lookup (settings.named lookup) [.hle, .mirroring]).asked } := by
  rw [override, Key.all, overrideKeys_cons_of_ok (overrideOne_biosDir _),
    overrideKeys_cons_of_ok (overrideOne_bios _)]
  rfl

lemma override_of_refusesFlag (h : RefusesFlag lookup) :
    ∃ text ∈ lookup "PSXMEM_HLE", ∀ settings : Settings, settings.override lookup =
      ⟨settings.named lookup, [.biosDir, .bios, .hle], some (.badFlag text "PSXMEM_HLE")⟩ := by
  obtain ⟨text, htext, hnone⟩ := h
  have hbad := (parseFlag_eq_none_iff text).2 hnone
  refine ⟨text, htext, fun settings => ?_⟩
  rw [override_eq_named, overrideKeys_cons_of_error (overrideOne_badFlag _ htext hbad)]
  rfl

lemma isSome_parseFlag_of_not (h : ¬RefusesFlag lookup) :
    ∀ text ∈ lookup "PSXMEM_HLE", (parseFlag text).isSome := by
  intro text htext
  by_contra hnone
  exact h ⟨text, htext, (parseFlag_eq_none_iff text).1 (Option.not_isSome_iff_eq_none.1 hnone)⟩

lemma override_eq_flagged (h : ¬RefusesFlag lookup) : settings.override lookup =
    { overrideKeys lookup (settings.flagged lookup) [.mirroring] with
      asked := .biosDir :: .bios :: .hle ::
        (overrideKeys lookup (settings.flagged lookup) [.mirroring]).asked } := by
  rw [override_eq_named,
    overrideKeys_cons_of_ok (overrideOne_hle _ (isSome_parseFlag_of_not h))]
  rfl

lemma exists_parse_of_not (h : ¬RefusesWay lookup) :
    ∀ text ∈ lookup "PSXMEM_MIRROR", ∃ way, Mirroring.parse text = .ok way := by
  intro text htext
  by_contra hnone
  refine h ⟨text, htext, fun way hspells => hnone ⟨way, ?_⟩⟩
  exact (Mirroring.parse_eq_ok_iff text way).2 hspells

lemma override_of_refusesWay (hflag : ¬RefusesFlag lookup) (h : RefusesWay lookup) :
    ∃ text ∈ lookup "PSXMEM_MIRROR", ∀ settings : Settings, settings.override lookup =
      ⟨settings.flagged lookup, Key.all,
        some (.unknownMirroring (Text.asciiLower text))⟩ := by
  obtain ⟨text, htext, hnone⟩ := h
  have hbad := Mirroring.parse_eq_error_of_not hnone
  refine ⟨text, htext, fun settings => ?_⟩
  rw [override_eq_flagged _ hflag,
    overrideKeys_cons_of_error (overrideOne_unknownMirroring _ htext hbad)]
  rfl

lemma override_of_not_refuses (hflag : ¬RefusesFlag lookup) (hway : ¬RefusesWay lookup) :
    settings.override lookup = ⟨settings.overridden lookup, Key.all, none⟩ := by
  rw [override_eq_flagged _ hflag,
    overrideKeys_cons_of_ok (overrideOne_mirroring _ (exists_parse_of_not hway))]
  rfl

lemma follows_flagged (h : ¬RefusesFlag lookup) :
    Follows SpellsFlag (lookup "PSXMEM_HLE") settings.hle (settings.flagged lookup).hle := by
  rw [flagged]
  cases htext : lookup "PSXMEM_HLE" with
  | none => rfl
  | some text =>
    obtain ⟨b, hb⟩ := Option.isSome_iff_exists.1 (isSome_parseFlag_of_not h text htext)
    have hspells := (parseFlag_eq_some_iff text b).1 hb
    simpa [Follows, hb] using hspells

lemma follows_overridden (h : ¬RefusesWay lookup) :
    Follows SpellsWay (lookup "PSXMEM_MIRROR") settings.mirroring
      (settings.overridden lookup).mirroring := by
  rw [overridden]
  cases htext : lookup "PSXMEM_MIRROR" with
  | none => rfl
  | some text =>
    obtain ⟨way, hparse⟩ := exists_parse_of_not h text htext
    have hspells := (Mirroring.parse_eq_ok_iff text way).1 hparse
    simpa [Follows, mirroringOf?, hparse, Except.toOption] using hspells

/-- A variable for the flag that is no flag ends the asking, and else one for the way to keep RAM
that names none. The variables before it have their say, and the settings from it on stay. Only what
is found for the variables asked for matters, and overriding again changes nothing and ends in the
same way. -/
theorem override_leaves (settings : Settings) (lookup : String → Option String) :
    let outcome := settings.override lookup
    let left := outcome.settings
    let asked := outcome.asked.map Key.envName
    left.biosDir = (lookup "PSXMEM_BIOS_DIR").getD settings.biosDir ∧
    left.bios = (lookup "PSXMEM_BIOS").getD settings.bios ∧
    (outcome.refusal = none ↔ ¬RefusesFlag lookup ∧ ¬RefusesWay lookup) ∧
    (RefusesFlag lookup →
      asked = ["PSXMEM_BIOS_DIR", "PSXMEM_BIOS", "PSXMEM_HLE"] ∧
      left.hle = settings.hle ∧ left.mirroring = settings.mirroring ∧
      ∃ text ∈ lookup "PSXMEM_HLE", outcome.refusal = some (.badFlag text "PSXMEM_HLE")) ∧
    (¬RefusesFlag lookup →
      asked = ["PSXMEM_BIOS_DIR", "PSXMEM_BIOS", "PSXMEM_HLE", "PSXMEM_MIRROR"] ∧
      Follows SpellsFlag (lookup "PSXMEM_HLE") settings.hle left.hle ∧
      (RefusesWay lookup →
        left.mirroring = settings.mirroring ∧
        ∃ text ∈ lookup "PSXMEM_MIRROR",
          outcome.refusal = some (.unknownMirroring (Text.asciiLower text))) ∧
      (¬RefusesWay lookup →
        Follows SpellsWay (lookup "PSXMEM_MIRROR") settings.mirroring left.mirroring)) ∧
    (∀ other : String → Option String, (∀ name ∈ asked, other name = lookup name) →
      settings.override other = outcome) ∧
    left.override lookup = outcome := by
  intro outcome left asked
  have hcongr : ∀ other : String → Option String, (∀ name ∈ asked, other name = lookup name) →
      settings.override other = outcome := by
    intro other hother
    apply overrideKeys_congr
    intro key hkey
    exact hother key.envName (List.mem_map_of_mem hkey)
  by_cases hflag : RefusesFlag lookup
  · obtain ⟨text, htext, heq⟩ := override_of_refusesFlag hflag
    have houtcome : outcome = _ := heq settings
    simp only [left, asked, houtcome] at hcongr ⊢
    refine ⟨rfl, rfl, by simp [hflag], ?_, fun hnot => absurd hflag hnot, hcongr, ?_⟩
    · exact fun _ => ⟨rfl, rfl, rfl, text, htext, rfl⟩
    · rw [heq, named_named]
  · by_cases hway : RefusesWay lookup
    · obtain ⟨text, htext, heq⟩ := override_of_refusesWay hflag hway
      have houtcome : outcome = _ := heq settings
      simp only [left, asked, houtcome] at hcongr ⊢
      refine ⟨rfl, rfl, by simp [hway], fun h => absurd h hflag, fun _ => ⟨rfl, ?_, ?_, ?_⟩,
        hcongr, ?_⟩
      · exact settings.follows_flagged hflag
      · exact fun _ => ⟨rfl, text, htext, rfl⟩
      · exact fun hnot => absurd hway hnot
      · rw [heq, flagged_flagged]
    · have houtcome : outcome = _ := settings.override_of_not_refuses hflag hway
      simp only [left, asked, houtcome] at hcongr ⊢
      refine ⟨rfl, rfl, by simp [hflag, hway], fun h => absurd h hflag, fun _ => ⟨rfl, ?_, ?_, ?_⟩,
        hcongr, ?_⟩
      · exact settings.follows_flagged hflag
      · exact fun h => absurd h hway
      · exact fun _ => settings.follows_overridden hway
      · rw [override_of_not_refuses _ hflag hway, overridden_overridden]

end Settings

end ConsoleMemory
