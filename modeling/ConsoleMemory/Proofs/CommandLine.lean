import ConsoleMemory.Probe.Options
import Mathlib.Tactic.Common

/-!
# What a command line gives

The reader of a command line keeps a value pending until the next option. An accepted line can be
read without: every option is followed by its value, or joined to it, and the values are taken over
one by one from the left.
-/

namespace ConsoleMemory.Probe

/-- What a part of a command line gives: a value for an option, or the switch. -/
inductive Given where
  | value (name : OptionName) (text : String)
  | hle
  deriving DecidableEq, Repr

/-- The name after two dashes, and the value that is joined to it. -/
def longParts? (argument : String) : Option (List Char × Option (List Char)) :=
  match argument.toList with
  | '-' :: '-' :: body => some (OptionReader.splitEquals body)
  | _ => none

/-- The option whose value is the next argument. -/
def awaited? (argument : String) : Option OptionName :=
  match longParts? argument with
  | some (name, none) => OptionReader.nameOf? name
  | _ => none

/-- What an argument gives by itself. -/
def joined? (argument : String) : Option Given :=
  match longParts? argument with
  | some (name, some text) => (OptionReader.nameOf? name).map (.value · (String.ofList text))
  | some (name, none) => if name = "hle".toList then some .hle else none
  | none => none

/-- What a command line gives, from the left. -/
def given : List String → List Given
  | [] => []
  | [argument] => (joined? argument).toList
  | argument :: text :: rest =>
    match awaited? argument with
    | some name => .value name text :: given rest
    | none => (joined? argument).toList ++ given (text :: rest)

/-- Takes over what one part gives. -/
def Options.take (options : Options) : Given → Except UsageStop Options
  | .value name text => options.accept name text
  | .hle => if options.hle then .error .malformed else .ok { options with hle := true }

/-- The value given for an address to peek at. -/
def Given.peekText? : Given → Option String
  | .value .peek text => some text
  | _ => none

/-- The value given for an option. -/
def Given.text? (name : OptionName) : Given → Option String
  | .value other text => if other = name then some text else none
  | .hle => none

/-- The values given for addresses to peek at. -/
def peekTexts (arguments : List String) : List String :=
  (given arguments).filterMap Given.peekText?

lemma exists_of_map_eq_ok {ε α β : Type} {f : α → β} {x : Except ε α} {b : β}
    (h : x.map f = .ok b) : ∃ a, x = .ok a ∧ f a = b := by
  cases x with
  | error cause => cases h
  | ok a => exact ⟨a, rfl, Except.ok.inj h⟩

lemma exists_of_foldlM_cons_eq_ok {ε α σ : Type} {step : σ → α → Except ε σ} {a : α}
    {rest : List α} {s t : σ} (h : (a :: rest).foldlM step s = .ok t) :
    ∃ next, step s a = .ok next ∧ rest.foldlM step next = .ok t := by
  rw [List.foldlM_cons] at h
  cases hnext : step s a with
  | error cause => simp [hnext, bind, Except.bind] at h
  | ok next =>
    rw [hnext] at h
    exact ⟨next, rfl, h⟩

/-! ### Single arguments -/

lemma nameOf?_hle : OptionReader.nameOf? "hle".toList = none := by decide

lemma joined?_of_awaited {argument : String} {name : OptionName}
    (h : awaited? argument = some name) : joined? argument = none := by
  unfold awaited? at h
  unfold joined?
  cases hparts : longParts? argument with
  | none => rfl
  | some parts =>
    obtain ⟨long, value⟩ := parts
    rw [hparts] at h
    cases value with
    | some text => cases h
    | none =>
      apply if_neg
      rintro rfl
      cases nameOf?_hle.symm.trans h

lemma given_of_awaited {argument : String} {name : OptionName} (text : String)
    (rest : List String) (h : awaited? argument = some name) :
    given (argument :: text :: rest) = .value name text :: given rest := by
  rw [given, h]

lemma given_cons {argument : String} (rest : List String) (h : awaited? argument = none) :
    given (argument :: rest) = (joined? argument).toList ++ given rest := by
  cases rest with
  | nil => rw [given, given, List.append_nil]
  | cons text rest => rw [given, h]

namespace OptionReader

/-- What a reader has pending and an unread line give. -/
def given (reader : OptionReader) (arguments : List String) : List Given :=
  match reader.pending, arguments with
  | none, _ => Probe.given arguments
  | some ⟨name, some text⟩, _ => .value name text :: Probe.given arguments
  | some ⟨name, none⟩, text :: rest => .value name text :: Probe.given rest
  | some ⟨_, none⟩, [] => []

/-- How a reader takes an argument that does not stop it. -/
inductive Takes (reader : OptionReader) (argument : String) : OptionReader → Prop where
  | closes (h : longParts? argument = some ([], none)) :
    Takes reader argument { reader with closed := true }
  | value (name : OptionName) (h : reader.pending = some ⟨name, none⟩) :
    Takes reader argument { reader with pending := some ⟨name, some argument⟩ }
  | awaits (name : OptionName) (options : Options) (h : awaited? argument = some name)
    (hsettle : reader.settle = .ok options) :
    Takes reader argument { options, pending := some ⟨name, none⟩ }
  | joined (item : Given) (options after : Options) (hawaited : awaited? argument = none)
    (h : joined? argument = some item) (hsettle : reader.settle = .ok options)
    (htake : options.take item = .ok after) : Takes reader argument { options := after }

lemma readHelp_ne_ok (reader next : OptionReader) : reader.readHelp ≠ .ok next := by
  unfold readHelp
  cases reader.settle <;> simp

lemma takes_of_readLong {reader next : OptionReader} {argument : String} {name : List Char}
    {value : Option (List Char)} (hparts : longParts? argument = some (name, value))
    (h : reader.readLong name value = .ok next) : Takes reader argument next := by
  have hawaited : awaited? argument = if value = none then nameOf? name else none := by
    rw [awaited?, hparts]
    cases value <;> rfl
  unfold readLong at h
  cases hname : nameOf? name with
  | some option =>
    rw [hname] at h hawaited
    cases hsettle : reader.settle with
    | error cause => simp [hsettle] at h
    | ok options =>
      cases value with
      | none =>
        simp only [hsettle, Except.ok.injEq] at h
        subst h
        exact .awaits option options hawaited hsettle
      | some text =>
        have hjoined : joined? argument = some (.value option (String.ofList text)) := by
          simp only [joined?, hparts, hname, Option.map_some]
        simp only [hsettle] at h
        obtain ⟨after, haccept, rfl⟩ := exists_of_map_eq_ok h
        exact .joined _ options after hawaited hjoined hsettle haccept
  | none =>
    rw [hname] at h hawaited
    cases value with
    | some text => simp at h
    | none =>
      by_cases hhle : name = "hle".toList
      · have hjoined : joined? argument = some .hle := by
          rw [joined?, hparts]
          exact if_pos hhle
        cases hsettle : reader.settle with
        | error cause => simp [hhle, hsettle] at h
        | ok options =>
          simp only [ne_eq, not_true_eq_false, if_false, if_pos hhle, hsettle] at h
          split at h
          · cases h
          case isFalse hfirst =>
            obtain rfl := Except.ok.inj h
            exact .joined .hle options _ hawaited hjoined hsettle (if_neg hfirst)
      · simp only [ne_eq, not_true_eq_false, if_false, if_neg hhle] at h
        split at h
        · exact absurd h (reader.readHelp_ne_ok next)
        · cases h

lemma takes_of_readValue {reader next : OptionReader} {argument : String}
    (h : reader.readValue argument.toList = .ok next) : Takes reader argument next := by
  unfold readValue at h
  split at h
  case h_1 name hpending =>
    obtain rfl := Except.ok.inj h
    rw [String.ofList_toList]
    exact .value name hpending
  case h_2 => cases h

lemma takes_of_readArgument {reader next : OptionReader} {argument : String}
    (h : reader.readArgument argument = .ok next) : Takes reader argument next := by
  unfold readArgument at h
  split at h
  · cases h
  · split at h
    case h_1 htext =>
      obtain rfl := Except.ok.inj h
      apply Takes.closes
      rw [longParts?, htext]
      rfl
    case h_2 rest _ htext =>
      cases hparts : splitEquals rest with
      | mk name value =>
        have hlong : longParts? argument = some (name, value) := by
          rw [longParts?, htext, ← hparts]
          rfl
        rw [hparts] at h
        exact takes_of_readLong hlong h
    case h_3 htext =>
      rw [← htext] at h
      exact takes_of_readValue h
    case h_4 => exact absurd h (reader.readHelp_ne_ok next)
    case h_5 => cases h
    case h_6 => exact takes_of_readValue h

lemma settle_foldlM {reader : OptionReader} {options : Options} (arguments : List String)
    (h : reader.settle = .ok options) :
    (reader.given arguments).foldlM Options.take reader.options =
      (Probe.given arguments).foldlM Options.take options := by
  obtain ⟨before, pending, closed⟩ := reader
  unfold settle at h
  unfold given
  match pending with
  | none =>
    obtain rfl := Except.ok.inj h
    rfl
  | some ⟨name, none⟩ => cases h
  | some ⟨name, some text⟩ =>
    have htake : before.take (.value name text) = .ok options := h
    simp only [List.foldlM_cons, htake]
    rfl

/-- By induction on the arguments. -/
theorem foldlM_take_given (arguments : List String) : ∀ {reader last : OptionReader}
    {options : Options}, arguments.foldlM readArgument reader = .ok last →
      last.settle = .ok options →
        (reader.given arguments).foldlM Options.take reader.options = .ok options := by
  induction arguments with
  | nil =>
    intro reader last options h hsettle
    obtain rfl := Except.ok.inj h
    exact settle_foldlM [] hsettle
  | cons argument rest ih =>
    intro reader last options h hlast
    obtain ⟨next, hnext, h⟩ := exists_of_foldlM_cons_eq_ok h
    have hrest := ih h hlast
    cases takes_of_readArgument hnext with
    | closes hparts =>
      cases rest with
      | nil =>
        have hjoined : joined? argument = none := by
          rw [joined?, hparts]
          rfl
        obtain rfl := Except.ok.inj h
        have hsettle : reader.settle = .ok options := hlast
        rw [settle_foldlM _ hsettle, Probe.given, hjoined]
        rfl
      -- nothing may follow a lone `--`
      | cons second rest => simp [readArgument, bind, Except.bind] at h
    | value name hpending =>
      unfold OptionReader.given
      rw [hpending]
      exact hrest
    | awaits name before hawaited hsettle =>
      rw [settle_foldlM _ hsettle]
      cases rest with
      | nil =>
        rw [Probe.given, joined?_of_awaited hawaited]
        exact hrest
      | cons text rest =>
        rw [given_of_awaited text rest hawaited]
        exact hrest
    | joined item before after hawaited hjoined hsettle htake =>
      rw [settle_foldlM _ hsettle, given_cons _ hawaited, hjoined]
      simp only [Option.toList_some, List.cons_append, List.nil_append, List.foldlM_cons, htake]
      exact hrest

end OptionReader

/-! ### Lines -/

namespace Options

/-- The options an accepted line leads to are those that what it gives leads to. -/
theorem foldlM_take_of_read {arguments : List String} {options : Options}
    (h : read arguments = .ok options) : (given arguments).foldlM take {} = .ok options := by
  unfold read at h
  split at h
  · cases h
  case h_2 reader hreader => exact OptionReader.foldlM_take_given arguments hreader h

/-- Options as parts of a command line give them. -/
structure GivenBy (options : Options) (items : List Given) : Prop where
  config : options.config = items.findSome? (Given.text? .config)
  biosDir : options.biosDir = items.findSome? (Given.text? .biosDir)
  bios : options.bios = items.findSome? (Given.text? .bios)
  hle : options.hle = true ↔ Given.hle ∈ items
  mirroring : options.mirroring.map Except.ok =
    (items.findSome? (Given.text? .mirroring)).map readMirroring
  peeks : options.peeks.map Except.ok = (items.filterMap Given.peekText?).map readPeek

lemma eq_of_readPath {text path : String} (h : readPath text = .ok path) : path = text := by
  unfold readPath at h
  split at h
  · cases h
  · exact (Except.ok.inj h).symm

lemma GivenBy.take {options after : Options} {items : List Given} {item : Given}
    (hgiven : options.GivenBy items) (h : options.take item = .ok after) :
    after.GivenBy (items ++ [item]) := by
  obtain ⟨hconfig, hdir, hbios, hhle, hmirroring, hpeeks⟩ := hgiven
  cases item with
  | hle =>
    rw [Options.take] at h
    split at h
    · cases h
    · obtain rfl := Except.ok.inj h
      constructor <;>
        simp [Given.text?, Given.peekText?, ← hconfig, ← hdir, ← hbios, hpeeks, hmirroring]
  | value name text =>
    unfold Options.take accept at h
    dsimp only at h
    split at h
    · cases h
    case isFalse hfirst =>
      -- nothing was given for this option before, so that its value is the first
      cases name with
      | config =>
        obtain ⟨path, hpath, rfl⟩ := exists_of_map_eq_ok h
        obtain rfl := eq_of_readPath hpath
        have hnone : options.config = none := by simpa [isGiven] using hfirst
        constructor <;>
          simp [Given.text?, Given.peekText?, ← hconfig, ← hdir, ← hbios, hpeeks, hhle, hmirroring,
            hnone]
      | biosDir =>
        obtain ⟨path, hpath, rfl⟩ := exists_of_map_eq_ok h
        obtain rfl := eq_of_readPath hpath
        have hnone : options.biosDir = none := by simpa [isGiven] using hfirst
        constructor <;>
          simp [Given.text?, Given.peekText?, ← hconfig, ← hdir, ← hbios, hpeeks, hhle, hmirroring,
            hnone]
      | bios =>
        obtain rfl := Except.ok.inj h
        have hnone : options.bios = none := by simpa [isGiven] using hfirst
        constructor <;>
          simp [Given.text?, Given.peekText?, ← hconfig, ← hdir, ← hbios, hpeeks, hhle, hmirroring,
            hnone]
      | mirroring =>
        obtain ⟨way, hway, rfl⟩ := exists_of_map_eq_ok h
        have hnone : options.mirroring = none := by simpa [isGiven] using hfirst
        have hunnamed : items.findSome? (Given.text? .mirroring) = none := by
          simpa [hnone] using hmirroring.symm
        constructor <;>
          simp [Given.text?, Given.peekText?, ← hconfig, ← hdir, ← hbios, hpeeks, hhle, hunnamed,
            hway]
      | peek =>
        obtain ⟨a, ha, rfl⟩ := exists_of_map_eq_ok h
        constructor <;>
          simp [Given.text?, Given.peekText?, ← hconfig, ← hdir, ← hbios, hpeeks, hhle, hmirroring,
            ha]

lemma GivenBy.foldlM_take (rest : List Given) : ∀ {options after : Options} {items : List Given},
    options.GivenBy items → rest.foldlM Options.take options = .ok after →
      after.GivenBy (items ++ rest) := by
  induction rest with
  | nil =>
    intro options after items hgiven h
    obtain rfl := Except.ok.inj h
    rwa [List.append_nil]
  | cons item rest ih =>
    intro options after items hgiven h
    obtain ⟨next, hnext, h⟩ := exists_of_foldlM_cons_eq_ok h
    rw [List.append_cons]
    exact ih (hgiven.take hnext) h

/-- An accepted line leads to the options it gives. -/
theorem givenBy_of_read {arguments : List String} {options : Options}
    (h : read arguments = .ok options) : options.GivenBy (given arguments) := by
  have hnothing : GivenBy {} [] := ⟨rfl, rfl, rfl, by decide, rfl, rfl⟩
  exact hnothing.foldlM_take _ (foldlM_take_of_read h)

end Options

end ConsoleMemory.Probe
