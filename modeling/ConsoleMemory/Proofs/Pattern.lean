import ConsoleMemory.Text.Pattern
import Mathlib.Tactic.Common

/-!
# What a search finds

A pattern stands for the texts it matches, each between the character before it and the one after
it. The derivatives of a pattern are the patterns for what comes after a first character, so a search
that follows them through a text finds out whether some part of the text is matched.
-/

namespace ConsoleMemory.Text

/-! ### Sets -/

namespace CharSet

lemma exists_mem_addRun_iff (low high n : Nat) (runs : List (Nat × Nat)) :
    (∃ run ∈ addRun low high runs, run.1 ≤ n ∧ n ≤ run.2) ↔
      (low ≤ n ∧ n ≤ high) ∨ ∃ run ∈ runs, run.1 ≤ n ∧ n ≤ run.2 := by
  induction runs generalizing low high with
  | nil => simp [addRun]
  | cons run rest ih =>
    obtain ⟨a, b⟩ := run
    rw [addRun]
    split
    · simp
    · split
      · simp only [List.mem_cons, exists_eq_or_imp, ih]
        tauto
      · rw [ih]
        simp only [List.mem_cons, exists_eq_or_imp, ← or_assoc]
        refine or_congr_left ?_
        -- the runs meet or touch, so nothing is between them
        omega

theorem holds_union (s t : CharSet) (c : Char) :
    (s.union t).holds c = (s.holds c || t.holds c) := by
  have hfold : ∀ runs added : List (Nat × Nat),
      (∃ run ∈ added.foldl (fun runs run => addRun run.1 run.2 runs) runs,
        run.1 ≤ c.toNat ∧ c.toNat ≤ run.2) ↔
      (∃ run ∈ runs, run.1 ≤ c.toNat ∧ c.toNat ≤ run.2) ∨
        ∃ run ∈ added, run.1 ≤ c.toNat ∧ c.toNat ≤ run.2 := by
    intro runs added
    induction added generalizing runs with
    | nil => simp
    | cons run rest ih =>
      rw [List.foldl_cons, ih, exists_mem_addRun_iff, or_assoc, or_left_comm]
      simp only [List.mem_cons, exists_eq_or_imp]
  rw [Bool.eq_iff_iff, Bool.or_eq_true]
  simp only [holds, List.any_eq_true, decide_eq_true_eq]
  exact hfold s.runs t.runs

end CharSet

namespace Pattern

/-! ### What patterns stand for -/

/-- Texts, each between the character before it and the one after it. -/
abbrev Places := Option Char → List Char → Option Char → Prop

/-- The character before what comes after some text. -/
def preceding (before : Option Char) (xs : List Char) : Option Char := xs.getLast?.or before

/-- The character after what comes before some text. -/
def following (ys : List Char) (after : Option Char) : Option Char := ys.head?.or after

/-- One text right after another. -/
def InTurn (P Q : Places) : Places := fun before cs after =>
  ∃ xs ys, cs = xs ++ ys ∧ P before xs (following ys after) ∧ Q (preceding before xs) ys after

/-- A number of texts right after each other. -/
def Times (P : Places) : Nat → Places
  | 0 => fun _ cs _ => cs = []
  | n + 1 => InTurn P (Times P n)

/-- A number of times is a least number or some more. -/
def Allows (least : Nat) (more : Option Nat) (n : Nat) : Prop :=
  least ≤ n ∧ ∀ m ∈ more, n ≤ least + m

/-- The texts that a pattern matches. -/
def Matches : Pattern → Places
  | empty => fun _ cs _ => cs = []
  | look condition => fun before cs after => cs = [] ∧ condition.holds before after = true
  | oneOf set => fun _ cs _ => ∃ c, cs = [c] ∧ set.holds c = true
  | seq p q => InTurn p.Matches q.Matches
  | either p q => fun before cs after => p.Matches before cs after ∨ q.Matches before cs after
  | repeated p least more => fun before cs after =>
    ∃ n, Allows least more n ∧ Times p.Matches n before cs after
  | group p => p.Matches

variable {P Q : Places} {p q : Pattern} {before after : Option Char} {c : Char} {cs : List Char}
  {n : Nat}

lemma exists_split_nil {R : List Char → List Char → Prop} :
    (∃ xs ys, [] = xs ++ ys ∧ R xs ys) ↔ R [] [] := by
  simp only [List.nil_eq, List.append_eq_nil_iff, and_assoc, exists_and_left, exists_eq_left]

/-- A text is split before its first character or somewhere after it. -/
lemma exists_split_cons {R : List Char → List Char → Prop} :
    (∃ xs ys, c :: cs = xs ++ ys ∧ R xs ys) ↔
      R [] (c :: cs) ∨ ∃ xs ys, cs = xs ++ ys ∧ R (c :: xs) ys := by
  simp only [List.cons_eq_append_iff]
  constructor
  · rintro ⟨xs, ys, ⟨rfl, rfl⟩ | ⟨xs, rfl, rfl⟩, hR⟩
    · exact .inl hR
    · exact .inr ⟨xs, ys, rfl, hR⟩
  · rintro (hR | ⟨xs, ys, rfl, hR⟩)
    · exact ⟨[], c :: cs, .inl ⟨rfl, rfl⟩, hR⟩
    · exact ⟨c :: xs, ys, .inr ⟨xs, rfl, rfl⟩, hR⟩

lemma inTurn_nil : InTurn P Q before [] after ↔ P before [] after ∧ Q before [] after :=
  exists_split_nil

lemma preceding_cons (before : Option Char) (c : Char) (xs : List Char) :
    preceding before (c :: xs) = preceding (some c) xs := by
  rw [preceding, preceding, List.getLast?_cons]
  cases xs.getLast? <;> rfl

/-- A first character belongs to the second text if the first one is empty, else to the first. -/
lemma inTurn_cons : InTurn P Q before (c :: cs) after ↔
    (P before [] (some c) ∧ Q before (c :: cs) after) ∨
      InTurn (fun _ xs after => P before (c :: xs) after) Q (some c) cs after := by
  unfold InTurn
  rw [exists_split_cons]
  simp only [preceding_cons]
  rfl

lemma times_nil : Times P n before [] after ↔ n = 0 ∨ P before [] after := by
  induction n with
  | zero => simp [Times]
  | succ n ih =>
    rw [Times, inTurn_nil, ih]
    simp only [Nat.succ_ne_zero, false_or]
    tauto

/-- The first text with something in it comes after some that are empty, and leaves fewer. -/
lemma times_cons : Times P n before (c :: cs) after ↔
    ∃ left, (left + 1 = n ∨ left + 1 ≤ n ∧ P before [] (some c)) ∧
      InTurn (fun _ xs after => P before (c :: xs) after) (Times P left) (some c) cs after := by
  induction n with
  | zero => simp [Times]
  | succ n ih =>
    rw [Times, inTurn_cons, ih]
    constructor
    · rintro (⟨hempty, left, hleft, hrest⟩ | hrest)
      · exact ⟨left, .inr ⟨by omega, hempty⟩, hrest⟩
      · exact ⟨n, .inl rfl, hrest⟩
    · rintro ⟨left, hleft, hrest⟩
      by_cases hlast : left = n
      · exact .inr (hlast ▸ hrest)
      · have hmore : left + 1 ≤ n ∧ P before [] (some c) := by
          rcases hleft with heq | ⟨hle, hempty⟩
          · omega
          · exact ⟨by omega, hempty⟩
        exact .inl ⟨hmore.2, left, .inr hmore, hrest⟩

/-! ### Derivatives -/

theorem nullable_iff (p : Pattern) (before after : Option Char) :
    p.nullable before after = true ↔ p.Matches before [] after := by
  induction p with
  | empty => simp [nullable, Matches]
  | look condition => simp [nullable, Matches]
  | oneOf set => simp [nullable, Matches]
  | seq p q ihp ihq => rw [nullable, Bool.and_eq_true, ihp, ihq, Matches, inTurn_nil]
  | either p q ihp ihq => rw [nullable, Bool.or_eq_true, ihp, ihq, Matches]
  | repeated p least more ih =>
    rw [nullable, Bool.or_eq_true, ih, beq_iff_eq, Matches]
    simp only [times_nil]
    constructor
    · rintro (rfl | hp)
      · exact ⟨0, ⟨Nat.le_refl 0, fun m _ => Nat.zero_le _⟩, .inl rfl⟩
      · exact ⟨least, ⟨Nat.le_refl least, fun m _ => Nat.le_add_right _ _⟩, .inr hp⟩
    · rintro ⟨n, hallows, rfl | hp⟩
      · exact .inl (Nat.le_zero.1 hallows.1)
      · exact .inr hp
  | group p ih => rw [nullable, ih, Matches]

lemma inTurn_nothing_left :
    InTurn (fun _ xs _ => xs = []) Q before cs after ↔ Q before cs after := by
  constructor
  · rintro ⟨xs, ys, rfl, rfl, hQ⟩
    exact hQ
  · intro hQ
    exact ⟨[], cs, rfl, rfl, hQ⟩

lemma inTurn_nothing_right :
    InTurn P (fun _ ys _ => ys = []) before cs after ↔ P before cs after := by
  constructor
  · rintro ⟨xs, ys, rfl, hP, rfl⟩
    rw [List.append_nil]
    exact hP
  · intro hP
    exact ⟨cs, [], (List.append_nil cs).symm, hP, rfl⟩

lemma matches_chain :
    (chain p q).Matches before cs after ↔ InTurn p.Matches q.Matches before cs after := by
  unfold chain
  split
  · exact inTurn_nothing_left.symm
  · exact inTurn_nothing_right.symm
  · rfl

/-- The texts after a first character are those that the derivatives match. -/
lemma inTurn_derivatives {ds : List Pattern}
    (h : ∀ xs after, p.Matches before (c :: xs) after ↔
      ∃ d ∈ ds, d.Matches (some c) xs after) :
    InTurn (fun _ xs after => p.Matches before (c :: xs) after) q.Matches (some c) cs after ↔
      ∃ d ∈ ds.map (chain · q), d.Matches (some c) cs after := by
  simp only [List.mem_map, exists_exists_and_eq_and, matches_chain]
  constructor
  · rintro ⟨xs, ys, hsplit, hp, hq⟩
    obtain ⟨d, hd, hmatch⟩ := (h _ _).1 hp
    exact ⟨d, hd, xs, ys, hsplit, hmatch, hq⟩
  · rintro ⟨d, hd, xs, ys, hsplit, hmatch, hq⟩
    exact ⟨xs, ys, hsplit, (h _ _).2 ⟨d, hd, hmatch⟩, hq⟩

lemma allows_none {least n : Nat} : Allows least none n ↔ least ≤ n := by
  simp [Allows]

lemma allows_some {least m n : Nat} : Allows least (some m) n ↔ least ≤ n ∧ n ≤ least + m := by
  simp [Allows]

/-- With times for nothing any number of times may be left that is less than the greatest. -/
lemma allows_rest_of_nullable {least left : Nat} {more : Option Nat}
    (h : ¬(least = 0 ∧ more = some 0)) :
    Allows 0 (more.map (least + · - 1)) left ↔ ∃ n, Allows least more n ∧ left + 1 ≤ n := by
  cases more with
  | none =>
    rw [Option.map_none, allows_none]
    refine ⟨fun _ => ⟨max least (left + 1), ?_, by omega⟩, fun _ => Nat.zero_le left⟩
    rw [allows_none]
    omega
  | some m =>
    rw [Option.some.injEq] at h
    rw [Option.map_some, allows_some]
    simp only [allows_some]
    constructor
    · rintro ⟨-, hle⟩
      exact ⟨max least (left + 1), by omega, by omega⟩
    · rintro ⟨n, hn, hleft⟩
      omega

/-- After one time that is not for nothing the times that are left come to the bounds together with
it, and with times for nothing if there may be some. -/
lemma matches_remainder {least : Nat} {more : Option Nat} (h : ¬(least = 0 ∧ more = some 0))
    (nullable : Bool) :
    (p.remainder nullable least more).Matches before cs after ↔
      ∃ left, (∃ n, Allows least more n ∧ (left + 1 = n ∨ left + 1 ≤ n ∧ nullable = true)) ∧
        Times p.Matches left before cs after := by
  unfold remainder
  cases nullable with
  | true =>
    rw [if_pos rfl, Matches]
    refine exists_congr fun left => and_congr_left' ?_
    rw [allows_rest_of_nullable h]
    refine exists_congr fun n => and_congr_right' ?_
    simp only [and_true]
    omega
  | false =>
    rw [if_neg Bool.false_ne_true]
    simp only [Bool.false_eq_true, and_false, or_false, exists_eq_right']
    cases least with
    | zero =>
      rw [Matches]
      refine exists_congr fun left => and_congr_left' ?_
      cases more with
      | none => simp [allows_none]
      | some m =>
        rw [Option.map_some, allows_some, allows_some]
        have hroom : m ≠ 0 := fun hm => h ⟨rfl, congrArg some hm⟩
        omega
    | succ least =>
      rw [Matches]
      refine exists_congr fun left => and_congr_left' ?_
      cases more with
      | none => simp [allows_none]
      | some m =>
        rw [allows_some, allows_some]
        omega

/-- By induction on the pattern. -/
theorem matches_cons (p : Pattern) (before : Option Char) (c : Char) :
    ∀ (cs : List Char) (after : Option Char), p.Matches before (c :: cs) after ↔
      ∃ d ∈ p.derivatives before c, d.Matches (some c) cs after := by
  induction p with
  | empty => simp [Matches, derivatives]
  | look condition => simp [Matches, derivatives]
  | oneOf set =>
    intro cs after
    rw [Matches, derivatives]
    by_cases hset : set.holds c = true
    · simp [hset, Matches]
    · simp [hset]
  | seq p q ihp ihq =>
    intro cs after
    rw [Matches, inTurn_cons, inTurn_derivatives ihp, ihq, ← nullable_iff, derivatives]
    simp only [List.mem_append, or_and_right, exists_or]
    rw [or_comm]
    by_cases hp : p.nullable before (some c) = true
    · simp [hp]
    · simp [hp]
  | either p q ihp ihq =>
    intro cs after
    rw [Matches]
    dsimp only
    rw [ihp, ihq, derivatives]
    simp only [List.mem_append, or_and_right, exists_or]
  | repeated p least more ih =>
    intro cs after
    rw [Matches, derivatives]
    by_cases hnone : least = 0 ∧ more = some 0
    · obtain ⟨rfl, rfl⟩ := hnone
      simp [Allows, Times]
    · rw [if_neg (by simpa using hnone), ← inTurn_derivatives ih]
      constructor
      · rintro ⟨n, hn, htimes⟩
        obtain ⟨left, hleft, xs, ys, hsplit, hp, hrest⟩ := times_cons.1 htimes
        rw [← nullable_iff] at hleft
        exact ⟨xs, ys, hsplit, hp, (matches_remainder hnone _).2 ⟨left, ⟨n, hn, hleft⟩, hrest⟩⟩
      · rintro ⟨xs, ys, hsplit, hp, hrest⟩
        obtain ⟨left, ⟨n, hn, hleft⟩, htimes⟩ := (matches_remainder hnone _).1 hrest
        rw [nullable_iff] at hleft
        exact ⟨n, hn, times_cons.2 ⟨left, hleft, xs, ys, hsplit, hp, htimes⟩⟩
  | group p ih => exact ih

/-! ### Patterns that are put together -/

theorem matches_choose (p q : Pattern) :
    (choose p q).Matches before cs after ↔
      p.Matches before cs after ∨ q.Matches before cs after := by
  unfold choose
  split
  · simp only [Matches, CharSet.holds_union, Bool.or_eq_true]
    constructor
    · rintro ⟨c, hc, hs | ht⟩
      · exact .inl ⟨c, hc, hs⟩
      · exact .inr ⟨c, hc, ht⟩
    · rintro (⟨c, hc, hs⟩ | ⟨c, hc, ht⟩)
      · exact ⟨c, hc, .inl hs⟩
      · exact ⟨c, hc, .inr ht⟩
  · rfl

lemma eq_nil_of_times (h : ∀ before cs after, P before cs after → cs = []) :
    ∀ {before after cs}, Times P n before cs after → cs = [] := by
  induction n with
  | zero => exact fun hnil => hnil
  | succ n ih =>
    rintro before after cs ⟨xs, ys, rfl, hP, htimes⟩
    rw [h _ _ _ hP, ih htimes, List.append_nil]

lemma eq_nil_of_isVoid (hvoid : p.isVoid = true) :
    ∀ before cs after, p.Matches before cs after → cs = [] := by
  induction p with
  | empty => exact fun before cs after hnil => hnil
  | look condition => exact fun before cs after hlook => hlook.1
  | oneOf set => cases hvoid
  | seq p q ihp ihq =>
    obtain ⟨hp, hq⟩ := (Bool.and_eq_true _ _).mp hvoid
    rintro before cs after ⟨xs, ys, rfl, hxs, hys⟩
    rw [ihp hp _ _ _ hxs, ihq hq _ _ _ hys, List.append_nil]
  | either p q ihp ihq =>
    obtain ⟨hp, hq⟩ := (Bool.and_eq_true _ _).mp hvoid
    rintro before cs after (hcs | hcs)
    · exact ihp hp _ _ _ hcs
    · exact ihq hq _ _ _ hcs
  | repeated p least more ih =>
    rintro before cs after ⟨n, -, htimes⟩
    exact eq_nil_of_times (ih hvoid) htimes
  | group p ih => exact ih hvoid

/-- Of a repetition of nothing it only counts whether there has to be one. -/
lemma matches_repeated_of_isVoid (hvoid : p.isVoid = true) (least : Nat) (more : Option Nat) :
    (repeated p least more).Matches before cs after ↔
      cs = [] ∧ (least = 0 ∨ p.Matches before [] after) := by
  have hnil := nullable_iff (repeated p least more) before after
  rw [nullable, Bool.or_eq_true, beq_iff_eq, nullable_iff] at hnil
  constructor
  · intro h
    obtain rfl := eq_nil_of_isVoid (p := repeated p least more) hvoid _ _ _ h
    exact ⟨rfl, hnil.2 h⟩
  · rintro ⟨rfl, h⟩
    exact hnil.1 h

lemma matches_bounds (p : Pattern) (least : Nat) (more : Option Nat) :
    (repeated p (p.bounds least more).1 (p.bounds least more).2).Matches before cs after ↔
      (repeated p least more).Matches before cs after := by
  unfold bounds
  cases hvoid : p.isVoid with
  | false => rfl
  | true =>
    rw [matches_repeated_of_isVoid hvoid, matches_repeated_of_isVoid hvoid]
    by_cases hleast : least = 0
    · simp [hleast]
    · simp [hleast]

/-- The short forms of a repetition match what it matches. -/
theorem matches_times (p : Pattern) (least : Nat) (more : Option Nat) :
    (p.times least more).Matches before cs after ↔
      (repeated p least more).Matches before cs after := by
  rw [← matches_bounds, times]
  split
  · rename_i hbounds
    rw [hbounds]
    simp [Matches, Allows, Times]
  · rename_i hbounds
    have hone : ∀ n, Allows 1 (some 0) n ↔ n = 1 := by
      intro n
      rw [allows_some]
      omega
    rw [hbounds]
    simp only [Matches, hone, exists_eq_left]
    exact inTurn_nothing_right.symm
  · rename_i hbounds
    rw [hbounds]

/-! ### Searching -/

/-- A pattern matches some text at the front of another. -/
def MatchesFront (p : Pattern) (before : Option Char) (cs : List Char) : Prop :=
  ∃ ys zs, cs = ys ++ zs ∧ p.Matches before ys zs.head?

lemma matchesFront_nil (p : Pattern) (before : Option Char) :
    p.MatchesFront before [] ↔ p.nullable before none = true := by
  rw [nullable_iff, MatchesFront, exists_split_nil]
  rfl

lemma matchesFront_cons (p : Pattern) (before : Option Char) (c : Char) (cs : List Char) :
    p.MatchesFront before (c :: cs) ↔
      p.nullable before (some c) = true ∨
        ∃ d ∈ p.derivatives before c, d.MatchesFront (some c) cs := by
  rw [nullable_iff, MatchesFront, exists_split_cons]
  refine or_congr_right ?_
  simp only [matches_cons]
  constructor
  · rintro ⟨ys, zs, hsplit, d, hd, hmatch⟩
    exact ⟨d, hd, ys, zs, hsplit, hmatch⟩
  · rintro ⟨d, hd, ys, zs, hsplit, hmatch⟩
    exact ⟨ys, zs, hsplit, d, hd, hmatch⟩

/-- Patterns under way before a character match nothing there, or their derivatives match after it. -/
lemma exists_matchesFront_cons (qs : List Pattern) (before : Option Char) (c : Char)
    (cs : List Char) :
    (∃ q ∈ qs, q.MatchesFront before (c :: cs)) ↔
      (∃ q ∈ qs, q.nullable before (some c) = true) ∨
        ∃ d ∈ qs.flatMap (·.derivatives before c), d.MatchesFront (some c) cs := by
  simp only [matchesFront_cons, List.mem_flatMap, and_or_left, exists_or]
  refine or_congr_right ?_
  constructor
  · rintro ⟨q, hq, d, hd, hfront⟩
    exact ⟨d, ⟨q, hq, hd⟩, hfront⟩
  · rintro ⟨d, ⟨q, hq, hd⟩, hfront⟩
    exact ⟨q, hq, d, hd, hfront⟩

/-- By induction on the text: the patterns under way match at its front, and the pattern itself may
start anywhere in it. -/
theorem searchFrom_iff (p : Pattern) (cs : List Char) :
    ∀ (before : Option Char) (underWay : List Pattern),
      p.searchFrom before underWay cs = true ↔
        (∃ q ∈ underWay, q.MatchesFront before cs) ∨
          ∃ xs rest, cs = xs ++ rest ∧ p.MatchesFront (preceding before xs) rest := by
  induction cs with
  | nil =>
    intro before underWay
    rw [searchFrom, exists_split_nil, List.any_cons, Bool.or_eq_true, List.any_eq_true, or_comm]
    simp only [matchesFront_nil]
    rfl
  | cons c rest ih =>
    intro before underWay
    have hunderWay := exists_matchesFront_cons (p :: underWay) before c rest
    rw [searchFrom, Bool.or_eq_true, List.any_eq_true, ih, exists_split_cons]
    simp only [List.mem_eraseDups, preceding_cons]
    rw [← or_assoc, ← hunderWay, ← or_assoc]
    simp only [List.mem_cons, exists_eq_or_imp]
    exact or_congr_left or_comm

/-- A search finds out whether a pattern matches some part of a text. -/
theorem search_iff (p : Pattern) (cs : List Char) :
    p.search cs = true ↔
      ∃ xs ys zs, cs = xs ++ ys ++ zs ∧ p.Matches xs.getLast? ys zs.head? := by
  rw [search, searchFrom_iff]
  constructor
  · rintro (⟨q, hq, -⟩ | ⟨xs, rest, rfl, ys, zs, rfl, hp⟩)
    · cases hq
    · refine ⟨xs, ys, zs, (List.append_assoc xs ys zs).symm, ?_⟩
      rwa [preceding, Option.or_none] at hp
  · rintro ⟨xs, ys, zs, rfl, hp⟩
    refine .inr ⟨xs, ys ++ zs, List.append_assoc xs ys zs, ys, zs, rfl, ?_⟩
    rwa [preceding, Option.or_none]

end Pattern

end ConsoleMemory.Text
