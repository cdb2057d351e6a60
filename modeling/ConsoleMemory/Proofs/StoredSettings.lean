import ConsoleMemory.Proofs.Document
import ConsoleMemory.Proofs.WrittenFiles
import ConsoleMemory.Settings.Stored

/-!
# Stored settings are loaded again

A document with the lines of some keys, in any order, is loaded as the settings it was written for,
with the default for each key that has no line. Settings that were saved are loaded as they were.
-/

namespace ConsoleMemory

namespace Settings

/-- The value of a key: a text or a flag. -/
def value (settings : Settings) : Key → List Char ⊕ Bool
  | .biosDir => .inl settings.biosDir.toList
  | .bios => .inl settings.bios.toList
  | .hle => .inr settings.hle
  | .mirroring => .inl settings.mirroring.name.toList

/-- The value of a key in a document. -/
def expr (settings : Settings) (key : Key) : Toml.Expr :=
  (settings.value key).elim .string fun flag => .scalar (.boolean flag)

/-- The value of a key in the table of a document. -/
def node (settings : Settings) (key : Key) : Toml.Node :=
  (settings.value key).elim .string fun flag => .scalar (.boolean flag)

/-- The settings with the values of some keys and the default for the others. -/
def keeping (settings : Settings) (keys : List Key) : Settings where
  biosDir := if Key.biosDir ∈ keys then settings.biosDir else ({} : Settings).biosDir
  bios := if Key.bios ∈ keys then settings.bios else ({} : Settings).bios
  hle := if Key.hle ∈ keys then settings.hle else ({} : Settings).hle
  mirroring := if Key.mirroring ∈ keys then settings.mirroring else ({} : Settings).mirroring

/-- Settings with one value of others. -/
def adopt (base settings : Settings) : Key → Settings
  | .biosDir => { base with biosDir := settings.biosDir }
  | .bios => { base with bios := settings.bios }
  | .hle => { base with hle := settings.hle }
  | .mirroring => { base with mirroring := settings.mirroring }

lemma Key.isBareName (key : Key) : Toml.IsBareName key.name := by
  have hbare : key.name.all Toml.isBareKey = true := by cases key <;> rfl
  exact ⟨by cases key <;> decide, List.all_eq_true.1 hbare⟩

lemma Key.name_injective : Function.Injective Key.name := by
  intro a b h
  cases a <;> cases b <;> first | rfl | exact absurd h (by decide)

lemma boolean_writtenAs (b : Bool) : (Toml.Expr.scalar (.boolean b)).WrittenAs (boolText b) := by
  cases b
  · exact ⟨⟨'f', rfl, rfl⟩, fun rest => rfl⟩
  · exact ⟨⟨'t', rfl, rfl⟩, fun rest => rfl⟩

lemma expr_writtenAs (settings : Settings) (key : Key) :
    (settings.expr key).WrittenAs (settings.valueText key) := by
  cases key with
  | biosDir | bios | mirroring => exact Toml.Expr.string_writtenAs _
  | hle => exact boolean_writtenAs _

lemma ofExpr_expr (settings : Settings) (key : Key) :
    Toml.Node.ofExpr (settings.expr key) = some (settings.node key) := by
  cases key <;> rfl

lemma read_documentText (settings : Settings) {keys : List Key} (h : keys.Nodup) :
    Toml.Entries.read (settings.documentText keys) =
      some (keys.map fun key => (key.name, settings.node key)) :=
  Toml.Entries.read_pairs Key.name_injective Key.isBareName settings.expr_writtenAs
    settings.ofExpr_expr h

lemma setNode?_node (base settings : Settings) (key : Key) :
    base.setNode? key (settings.node key) = some (base.adopt settings key) := by
  cases key with
  | biosDir | bios => simp [setNode?, node, value, adopt]
  | hle => rfl
  | mirroring =>
    simp [setNode?, node, value, adopt, Mirroring.ofNode?, Mirroring.ofName?_name]

/-- The keys are taken over one after another, each into a field of its own. -/
lemma foldlM_adopt (settings : Settings) (keys : List Key)
    {take : Settings → Key → Option Settings}
    (h : ∀ base key, take base key = some (if key ∈ keys then base.adopt settings key else base)) :
    Key.all.foldlM take {} = some (settings.keeping keys) := by
  simp only [Key.all, List.foldlM_cons, List.foldlM_nil, h, Option.bind_eq_bind,
    Option.bind_some, Option.pure_def, keeping]
  split_ifs <;> rfl

lemma ofEntries?_node (settings : Settings) (keys : List Key) :
    ofEntries? (keys.map fun key => (key.name, settings.node key)) =
      some (settings.keeping keys) := by
  refine foldlM_adopt settings keys fun base key => ?_
  rw [Toml.Entries.get?_map Key.name_injective]
  by_cases hkey : key ∈ keys
  · rw [if_pos hkey, if_pos hkey]
    exact setNode?_node base settings key
  · rw [if_neg hkey, if_neg hkey]

lemma ofToml?_documentText (settings : Settings) {keys : List Key} (h : keys.Nodup) :
    ofToml? (String.ofList (settings.documentText keys)) = some (settings.keeping keys) := by
  rw [ofToml?, String.toList_ofList, read_documentText settings h]
  exact ofEntries?_node settings keys

lemma keeping_all (settings : Settings) : settings.keeping Key.all = settings := rfl

lemma load_documentText (settings : Settings) {keys : List Key} (hkeys : keys.Nodup)
    {files : Files} {path : String}
    (h : files.readText path = .ok (String.ofList (settings.documentText keys))) :
    load files path = .ok (settings.keeping keys) := by
  rw [load, h]
  dsimp only
  rw [ofToml?_documentText settings hkeys]

lemma readText_of_save {settings : Settings} {files saved : Files} {path : String}
    (h : settings.save files path = .ok saved) :
    saved.readText path = .ok (String.ofList (settings.documentText Key.all)) := by
  unfold save at h
  split at h
  · cases h
  · rename_i written hwrite
    obtain rfl := Except.ok.inj h
    exact Files.readText_of_write hwrite

lemma exists_save_iff (settings : Settings) (files : Files) (path : String) :
    (∃ saved, settings.save files path = .ok saved) ↔
      ∃ place, files.resolveForWriting path = .ok place ∧
        files.node? place ≠ some .directory := by
  rw [← Files.exists_write_iff settings.toToml.toUTF8]
  unfold save
  split <;> simp_all

/-- Settings can be saved to any path that is not a directory and lies in one. Saved settings are
loaded as they were, whatever characters their texts are made of. A document with the lines of any
of the keys that were saved, in any order, is loaded as the settings with these values and the
default for the keys left out. -/
theorem load_stored (settings : Settings) (files : Files) (path : String) :
    ((∃ saved, settings.save files path = .ok saved) ↔
      ∃ place, files.resolveForWriting path = .ok place ∧
        files.node? place ≠ some .directory) ∧
    (∀ saved, settings.save files path = .ok saved →
      saved.readText path = .ok (String.ofList (settings.documentText Key.all)) ∧
        load saved path = .ok settings) ∧
    ∀ keys : List Key, keys.Nodup →
      files.readText path = .ok (String.ofList (settings.documentText keys)) →
      load files path = .ok (settings.keeping keys) := by
  refine ⟨settings.exists_save_iff files path, fun saved h => ?_,
    fun keys hkeys h => load_documentText settings hkeys h⟩
  have hload := load_documentText settings (by decide) (readText_of_save h)
  rw [keeping_all] at hload
  exact ⟨readText_of_save h, hload⟩

/-- Settings whose texts hold runs of both quotes, backslashes, line breaks and control
characters. -/
def quoteLaden : Settings where
  biosDir := "\n\x27\x27\x27\"\"\"\"\\\t\r\x7f\x27\""
  bios := "a\x27\x27\\b\n\"\""
  hle := true
  mirroring := .aliased

lemma save_new (settings : Settings) : settings.save {} "memory.toml" =
    .ok ⟨[(["memory.toml"], .ofBytes settings.toToml.toUTF8)]⟩ := rfl

theorem load_stored_quoteLaden :
    (∃ saved, quoteLaden.save {} "memory.toml" = .ok saved ∧
      load saved "memory.toml" = .ok quoteLaden) ∧
      [Key.mirroring, Key.biosDir].Nodup ∧ ∃ files : Files,
        files.readText "memory.toml" =
          .ok (String.ofList (quoteLaden.documentText [.mirroring, .biosDir])) ∧
        load files "memory.toml" =
          .ok { biosDir := quoteLaden.biosDir, mirroring := .aliased } := by
  have hwritten : ∀ text : String, (Files.mk [(["memory.toml"], .ofBytes text.toUTF8)]).readText
      "memory.toml" = .ok text := by
    intro text
    have hwrite : Files.write {} "memory.toml" text.toUTF8 =
        .ok ⟨[(["memory.toml"], .ofBytes text.toUTF8)]⟩ := rfl
    exact Files.readText_of_write hwrite
  exact ⟨⟨_, save_new quoteLaden, ((load_stored quoteLaden {} _).2.1 _ (save_new quoteLaden)).2⟩,
    by decide, _, hwritten _, (load_stored quoteLaden _ _).2.2 _ (by decide) (hwritten _)⟩

end Settings

end ConsoleMemory
