import ConsoleMemory.Probe.Log
import ConsoleMemory.Proofs.Pattern

/-!
# What the log shows

A message is shown unless the directive closest to its target is silent, and if the pattern of the
filter matches some part of it. What is shown of it is readable text.
-/

namespace ConsoleMemory.Probe

open Text Text.ControlSequence

namespace LogDirective

/-- The directive that is kept from a list: the closest, of equally close ones the last. -/
lemma exists_foldl_closest (ds : List LogDirective) : ∀ best : LogDirective,
    let kept := ds.foldl (fun best d => if d.closeness < best.closeness then best else d) best
    (kept = best ∧ ∀ d ∈ ds, d.closeness < best.closeness) ∨
      best.closeness ≤ kept.closeness ∧ ∃ front back, ds = front ++ kept :: back ∧
        (∀ d ∈ front, d.closeness ≤ kept.closeness) ∧
        ∀ d ∈ back, d.closeness < kept.closeness := by
  induction ds with
  | nil => exact fun best => .inl ⟨rfl, fun d hd => absurd hd List.not_mem_nil⟩
  | cons d rest ih =>
    intro best
    rw [List.foldl_cons]
    by_cases hfar : d.closeness < best.closeness
    · rw [if_pos hfar]
      obtain ⟨hkept, hrest⟩ | ⟨hle, front, back, hsplit, hfront, hback⟩ := ih best
      · refine .inl ⟨hkept, fun other hother => ?_⟩
        rcases List.mem_cons.1 hother with rfl | hother
        · exact hfar
        · exact hrest other hother
      · refine .inr ⟨hle, d :: front, back, congrArg (d :: ·) hsplit, fun other hother => ?_, hback⟩
        rcases List.mem_cons.1 hother with rfl | hother
        · exact Nat.le_trans (Nat.le_of_lt hfar) hle
        · exact hfront other hother
    · rw [if_neg hfar]
      obtain ⟨hkept, hrest⟩ | ⟨hle, front, back, hsplit, hfront, hback⟩ := ih d
      · rw [hkept]
        exact .inr ⟨Nat.le_of_not_lt hfar, [], rest, rfl, fun other hother =>
          absurd hother List.not_mem_nil, hrest⟩
      · refine .inr ⟨Nat.le_trans (Nat.le_of_not_lt hfar) hle, d :: front, back,
          congrArg (d :: ·) hsplit, fun other hother => ?_, hback⟩
        rcases List.mem_cons.1 hother with rfl | hother
        · exact hle
        · exact hfront other hother

lemma exists_mem_insert (directives : List LogDirective) (d : LogDirective) :
    ∃ other ∈ insert directives d, other.start = d.start := by
  unfold insert
  split
  · rename_i hany
    obtain ⟨other, hmem, hstart⟩ := List.any_eq_true.1 hany
    exact ⟨d, List.mem_map.2 ⟨other, hmem, if_pos hstart⟩, rfl⟩
  · exact ⟨d, List.mem_append_right _ (List.mem_singleton.2 rfl), rfl⟩

end LogDirective

namespace LogFilter

/-- A directive decides on a target: of the directives for the target none is closer, and none that
is equally close comes after it. -/
def Decides (filter : LogFilter) (target : List Char) (d : LogDirective) : Prop :=
  ∃ front back, filter.directives.filter (·.covers target) = front ++ d :: back ∧
    (∀ other ∈ front, other.closeness ≤ d.closeness) ∧
    ∀ other ∈ back, other.closeness < d.closeness

/-- In a run every target is decided on, for there is a directive for all targets. -/
theorem decides_deciding (vars : Variables) (target : List Char) :
    (ofVariables vars).Decides target ((ofVariables vars).deciding target) := by
  obtain ⟨all, hall, hstart⟩ := LogDirective.exists_mem_insert
    ((vars.get? variableName).elim {} fun text => read text.toList).directives ⟨none, false⟩
  have hcovers : all ∈ (ofVariables vars).directives.filter (·.covers target) := by
    refine List.mem_filter.2 ⟨hall, ?_⟩
    rw [LogDirective.covers, hstart]
  obtain ⟨-, hnone⟩ | ⟨-, hdecides⟩ := LogDirective.exists_foldl_closest
    ((ofVariables vars).directives.filter (·.covers target)) ⟨none, false⟩
  · exact absurd (hnone all hcovers) (Nat.not_lt_zero _)
  · exact hdecides

theorem shows_iff (filter : LogFilter) (target message : List Char) :
    filter.shows target message = true ↔
      (filter.deciding target).silent = false ∧ ∀ p ∈ filter.pattern, ∃ xs ys zs,
        message = xs ++ ys ++ zs ∧ p.Matches xs.getLast? ys zs.head? := by
  rw [shows, Bool.and_eq_true, Bool.not_eq_true']
  refine and_congr_right fun _ => ?_
  cases filter.pattern with
  | none => simp
  | some p => simp [Pattern.search_iff]

end LogFilter

/-- An error message of the probe is shown if the directive that decides on the probe is not silent
and the pattern matches some part of the message. -/
theorem logged_eq_some_iff (vars : Variables) (message text : String) :
    logged vars message = some text ↔
      ((LogFilter.ofVariables vars).deciding "psxmem_probe".toList).silent = false ∧
      (∀ p ∈ (LogFilter.ofVariables vars).pattern, ∃ xs ys zs,
        message.toList = xs ++ ys ++ zs ∧ p.Matches xs.getLast? ys zs.head?) ∧
      text = String.ofList (plain (indented message.toList)) := by
  rw [logged, ← and_assoc, ← LogFilter.shows_iff]
  split
  · rename_i hshown
    rw [Option.some.injEq, eq_comm, and_iff_right hshown]
  · rename_i hshown
    exact iff_of_false (Option.some_ne_none text).symm fun h => hshown h.1

lemma isKept_of_mem_indented {message : List Char} (h : ∀ c ∈ message, isKept c = true) :
    ∀ c ∈ indented message, isKept c = true := by
  intro c hc
  obtain ⟨d, hd, hc⟩ := List.mem_flatMap.1 hc
  split at hc
  · have hbreak : "\n    ".toList.all isKept = true := rfl
    exact List.all_eq_true.1 hbreak c hc
  · obtain rfl := List.mem_singleton.1 hc
    exact h c hd

/-- What is shown of a message is readable, and a readable message is shown whole, with its further
lines set in. -/
theorem readable_of_logged {vars : Variables} {message text : String}
    (h : logged vars message = some text) :
    (∀ c ∈ text.toList, isKept c = true) ∧
      ((∀ c ∈ message.toList, isKept c = true) → text.toList = indented message.toList) := by
  obtain ⟨-, -, rfl⟩ := (logged_eq_some_iff vars message text).1 h
  rw [String.toList_ofList]
  exact ⟨fun c hc => isKept_of_mem_plainFrom hc,
    fun hmessage => plain_of_forall_isKept (isKept_of_mem_indented hmessage)⟩

end ConsoleMemory.Probe
