import ConsoleMemory.Files
import ConsoleMemory.Proofs.Reader

/-!
# Files that were written are read back

A write changes what is at one place, and that place is no directory before. Every place a path
passes on its way is a directory, so the path leads to the same place after the write.
-/

namespace ConsoleMemory.Files

lemma node?_put_of_ne (files : Files) {place other : Place} (h : other ≠ place) (node : Node) :
    (files.put place node).node? other = files.node? other := by
  have hmap : ∀ nodes : List (Place × Node),
      ((nodes.map fun entry => if entry.1 == place then (place, node) else entry).find?
        fun entry => entry.1 == other) = nodes.find? fun entry => entry.1 == other := by
    intro nodes
    induction nodes with
    | nil => rfl
    | cons entry nodes ih =>
      rw [List.map_cons, List.find?_cons, List.find?_cons, ih]
      by_cases heq : entry.1 = place
      · simp [heq, beq_false_of_ne (Ne.symm h)]
      · simp [heq]
  unfold node? put
  dsimp only
  by_cases hany : (files.nodes.any fun entry => entry.1 == place) = true
  · rw [if_pos hany, hmap]
  · rw [if_neg hany]
    simp [Ne.symm h]

lemma node?_put_self (files : Files) {place : Place} (h : files.node? place ≠ some .directory)
    (node : Node) : (files.put place node).node? place = some node := by
  have hinside : ¬isOutside place = true := fun hout => h (if_pos hout)
  have hmap : ∀ nodes : List (Place × Node), (∃ entry ∈ nodes, entry.1 = place) →
      ((nodes.map fun entry => if entry.1 == place then (place, node) else entry).find?
        fun entry => entry.1 == place) = some (place, node) := by
    intro nodes hnodes
    induction nodes with
    | nil => simp at hnodes
    | cons entry nodes ih =>
      rw [List.map_cons, List.find?_cons]
      by_cases heq : entry.1 = place
      · simp [heq]
      · have hrest : ∃ entry ∈ nodes, entry.1 = place := by simpa [heq] using hnodes
        rw [ih hrest]
        simp [beq_false_of_ne heq]
  unfold node? put
  rw [if_neg hinside]
  dsimp only
  by_cases hany : (files.nodes.any fun entry => entry.1 == place) = true
  · rw [if_pos hany, hmap files.nodes (by simpa using hany)]
    rfl
  · have hnone : files.nodes.find? (fun entry => entry.1 == place) = none :=
      List.find?_eq_none.2 fun entry hentry heq => hany (List.any_eq_true.2 ⟨entry, hentry, heq⟩)
    rw [if_neg hany, List.find?_append, hnone]
    simp

lemma directory_of_enter {files : Files} {place next : Place} {name : String}
    (h : files.enter place name = .ok next) : files.node? place = some .directory := by
  unfold enter at h
  split at h
  · assumption
  all_goals cases h

lemma enter_congr {files other : Files} {place : Place} (h : other.node? place = files.node? place)
    (name : String) : other.enter place name = files.enter place name := by
  unfold enter
  rw [h]

/-- A change at a place that is no directory leaves the walks to it as they are. -/
lemma foldlM_enter_put {files : Files} {place : Place}
    (hplace : files.node? place ≠ some .directory) (node : Node) (names : List String)
    {start last : Place} (h : names.foldlM files.enter start = .ok last) :
    names.foldlM (files.put place node).enter start = .ok last := by
  induction names generalizing start with
  | nil => exact h
  | cons name names ih =>
    rw [List.foldlM_cons] at h ⊢
    cases hnext : files.enter start name with
    | error cause =>
      rw [hnext] at h
      cases h
    | ok next =>
      rw [hnext] at h
      have hne : start ≠ place := by
        rintro rfl
        exact hplace (directory_of_enter hnext)
      rw [enter_congr (node?_put_of_ne files hne node), hnext]
      exact ih h

/-- A path that can be written leads to the same place for reading. -/
lemma resolve_of_resolveForWriting {files : Files} {path : String} {place : Place}
    (h : files.resolveForWriting path = .ok place) : files.resolve path = .ok place := by
  unfold resolveForWriting at h
  unfold resolve
  split at h
  · cases h
  · split at h
    · split at h <;> cases h
    · exact h

lemma exists_write_iff {files : Files} {path : String} (bytes : ByteArray) :
    (∃ saved, files.write path bytes = .ok saved) ↔
      ∃ place, files.resolveForWriting path = .ok place ∧
        files.node? place ≠ some .directory := by
  unfold write
  cases files.resolveForWriting path with
  | error cause => simp
  | ok place =>
    dsimp only
    split
    all_goals
      rename_i hnode
      simp [hnode]

theorem readBytes_of_write {files saved : Files} {path : String} {bytes : ByteArray}
    (h : files.write path bytes = .ok saved) : saved.readBytes path = .ok bytes := by
  unfold write at h
  split at h
  · cases h
  rename_i place hwrite
  have hplace : files.node? place ≠ some .directory := by
    intro hdirectory
    rw [hdirectory] at h
    cases h
  have hsaved : files.put place (.ofBytes bytes) = saved := by
    split at h
    · cases h
    all_goals exact Except.ok.inj h
  have hresolve : saved.resolve path = .ok place := by
    have hbefore := resolve_of_resolveForWriting hwrite
    rw [← hsaved]
    unfold resolve at hbefore ⊢
    split at hbefore
    · cases hbefore
    · exact foldlM_enter_put hplace _ _ hbefore
  have hnode : saved.node? place = some (.ofBytes bytes) := by
    rw [← hsaved]
    exact node?_put_self files hplace _
  rw [readBytes, openPath, hresolve]
  dsimp only
  rw [openedAt, hnode]
  exact Reader.contents_ofBytes bytes

/-- A text that was written to a path is read from it. -/
theorem readText_of_write {files saved : Files} {path text : String}
    (h : files.write path text.toUTF8 = .ok saved) : saved.readText path = .ok text := by
  have hdecode : String.fromUTF8? text.toUTF8 = some text := dif_pos text.isValidUTF8
  rw [readText, readBytes_of_write h]
  dsimp only
  rw [hdecode]

end ConsoleMemory.Files
