import ConsoleMemory.Proofs.Quoted
import ConsoleMemory.Toml.Table

/-!
# Documents of plain pairs

A document whose lines are pairs of one bare name and one value is read as the table of these pairs,
in their order, if no name comes twice.
-/

namespace ConsoleMemory.Toml

/-! ### Lines -/

/-- A name that stands in a key without quotes. -/
structure IsBareName (name : List Char) : Prop where
  ne_nil : name ≠ []
  bare : ∀ c ∈ name, isBareKey c = true

/-- What a value is read as when a line break follows it. -/
structure Expr.WrittenAs (expr : Expr) (text : List Char) : Prop where
  head : ∃ c, text.head? = some c ∧ isGap c = false
  read : ∀ rest, readExpr depthLimit (text ++ '\n' :: rest) = some (expr, '\n' :: rest)

lemma Quoted.exists_write_cons (cs : List Char) :
    ∃ c tail, Quoted.write cs = c :: tail ∧ (c = '"' ∨ c = '\x27') := by
  unfold Quoted.write
  dsimp only
  cases Quoted.formFor cs with
  | basic | multiBasic => exact ⟨'"', _, rfl, .inl rfl⟩
  | literal | multiLiteral => exact ⟨'\x27', _, rfl, .inr rfl⟩

/-- Every text is read from the string it is written as. -/
lemma Expr.string_writtenAs (cs : List Char) : (Expr.string cs).WrittenAs (Quoted.write cs) := by
  obtain ⟨c, tail, heq, hquote⟩ := Quoted.exists_write_cons cs
  refine ⟨⟨c, by rw [heq]; rfl, by rcases hquote with rfl | rfl <;> rfl⟩, fun rest => ?_⟩
  have hread : Quoted.read (Quoted.write cs ++ '\n' :: rest) = some (cs, '\n' :: rest) :=
    Quoted.read_write cs (by simp) (by simp)
  rw [heq, List.cons_append] at hread ⊢
  rcases hquote with rfl | rfl
  · simp [depthLimit, readExpr, readAtom, hread]
  · simp [depthLimit, readExpr, readAtom, hread]

/-- The line of a pair. -/
def pairText (name value : List Char) : List Char := name ++ [' ', '=', ' '] ++ value ++ ['\n']

lemma isBareKey_ne {c : Char} (h : isBareKey c = true) :
    c ≠ '"' ∧ c ≠ '\x27' ∧ c ≠ '[' ∧ c ≠ '\n' ∧ c ≠ '\r' ∧ c ≠ '#' ∧ c ≠ '\ufeff' ∧
      isGap c = false := by
  refine ⟨?_, ?_, ?_, ?_, ?_, ?_, ?_, ?_⟩
  case refine_8 =>
    by_contra hgap
    simp only [Bool.not_eq_false, isGap, Bool.or_eq_true, beq_iff_eq] at hgap
    rcases hgap with rfl | rfl <;> exact absurd h (by decide)
  all_goals
    rintro rfl
    exact absurd h (by decide)

lemma IsBareName.exists_cons {name : List Char} (h : IsBareName name) :
    ∃ c tail, name = c :: tail ∧ isBareKey c = true := by
  obtain ⟨c, tail, rfl⟩ := List.exists_cons_of_ne_nil h.ne_nil
  exact ⟨c, tail, rfl, h.bare c List.mem_cons_self⟩

lemma readName_bare {name : List Char} (h : IsBareName name) {c : Char} (hc : isBareKey c = false)
    (rest : List Char) : readName (name ++ c :: rest) = some (name, c :: rest) := by
  have htake : (name ++ c :: rest).takeWhile isBareKey = name := by
    rw [List.takeWhile_append_of_pos h.bare, List.takeWhile_cons_of_neg (by simp [hc]),
      List.append_nil]
  have hdrop : (name ++ c :: rest).dropWhile isBareKey = c :: rest := by
    rw [List.dropWhile_append_of_pos h.bare, List.dropWhile_cons_of_neg (by simp [hc])]
  obtain ⟨d, tail, rfl, hd⟩ := h.exists_cons
  obtain ⟨hdouble, hsingle, -⟩ := isBareKey_ne hd
  rw [readName]
  · rw [htake, hdrop]
    rfl
  all_goals simp_all

lemma readKey_bare {name : List Char} (h : IsBareName name) (rest : List Char) :
    readKey (name ++ ' ' :: '=' :: rest) = some ([name], '=' :: rest) := by
  rw [readKey, nameLimit, readNames, readName_bare h (by decide)]
  rfl

lemma readPair_bare {name value : List Char} {expr : Expr} (hname : IsBareName name)
    (hvalue : expr.WrittenAs value) (rest : List Char) :
    readPair (readExpr depthLimit) (pairText name value ++ rest) =
      some (([name], expr), '\n' :: rest) := by
  obtain ⟨c, hhead, hgap⟩ := hvalue.head
  have hskip : skipGap (' ' :: (value ++ '\n' :: rest)) = value ++ '\n' :: rest := by
    cases value with
    | nil => cases hhead
    | cons d value =>
      obtain rfl : d = c := by simpa using hhead
      simp [skipGap, hgap, show isGap ' ' = true from rfl]
  have htext : pairText name value ++ rest =
      name ++ ' ' :: '=' :: ' ' :: (value ++ '\n' :: rest) := by
    simp [pairText]
  rw [htext, readPair, readKey_bare hname]
  simp only [hskip, hvalue.read]

lemma readLine_pair {name value : List Char} {expr : Expr} (hname : IsBareName name)
    (hvalue : expr.WrittenAs value) (rest : List Char) :
    readLine (pairText name value ++ rest) = some (.pair [name] expr, rest) := by
  have hpair := readPair_bare hname hvalue rest
  obtain ⟨c, tail, rfl, hc⟩ := hname.exists_cons
  obtain ⟨-, -, hbracket, -⟩ := isBareKey_ne hc
  rw [readLine]
  · rw [hpair]
    rfl
  all_goals simp_all [pairText]

lemma readLinesUpTo_line {fuel : Nat} {cs rest : List Char} {line : Line}
    (hskip : skipBlank false cs = some cs) (hne : cs ≠ [])
    (hline : readLine cs = some (line, rest)) :
    readLinesUpTo (fuel + 1) cs = (readLinesUpTo fuel rest).map (line :: ·) := by
  obtain ⟨c, cs, rfl⟩ := List.exists_cons_of_ne_nil hne
  rw [readLinesUpTo, hskip]
  dsimp only
  rw [hline]

section

variable {α : Type} {name value : α → List Char} {expr : α → Expr}
variable (hname : ∀ a, IsBareName (name a)) (hvalue : ∀ a, (expr a).WrittenAs (value a))

include hname in
lemma skipBlank_pair (a : α) (rest : List Char) :
    skipBlank false (pairText (name a) (value a) ++ rest) =
      some (pairText (name a) (value a) ++ rest) := by
  obtain ⟨c, tail, heq, hc⟩ := (hname a).exists_cons
  obtain ⟨-, -, -, hfeed, hreturn, hcomment, -, hgap⟩ := isBareKey_ne hc
  rw [heq, skipBlank.eq_def]
  split <;> simp_all [pairText]

include hname hvalue in
/-- One line is read at a time, so as many steps as there are lines are enough. -/
lemma readLinesUpTo_pairs (as : List α) {fuel : Nat} (hfuel : as.length < fuel) :
    readLinesUpTo fuel (as.flatMap fun a => pairText (name a) (value a)) =
      some (as.map fun a => .pair [name a] (expr a)) := by
  induction as generalizing fuel with
  | nil =>
    obtain ⟨fuel, rfl⟩ := Nat.exists_eq_add_one_of_ne_zero (Nat.ne_of_gt hfuel)
    rfl
  | cons a as ih =>
    obtain ⟨fuel, rfl⟩ := Nat.exists_eq_add_one_of_ne_zero (Nat.ne_of_gt (Nat.zero_lt_of_lt hfuel))
    have hless : as.length < fuel := by simpa using hfuel
    have hline := readLine_pair (hname a) (hvalue a)
      (as.flatMap fun a => pairText (name a) (value a))
    rw [List.flatMap_cons,
      readLinesUpTo_line (skipBlank_pair hname a _) (by simp [pairText]) hline,
      ih hless]
    rfl

include hname hvalue in
lemma readLines_pairs (as : List α) :
    readLines (as.flatMap fun a => pairText (name a) (value a)) =
      some (as.map fun a => .pair [name a] (expr a)) := by
  have hfuel : as.length < (as.flatMap fun a => pairText (name a) (value a)).length + 1 := by
    induction as with
    | nil => exact Nat.zero_lt_one
    | cons a as ih =>
      rw [List.flatMap_cons, List.length_append]
      simp only [pairText, List.length_append, List.length_cons] at ih ⊢
      omega
  rw [readLines.eq_def]
  split
  · rename_i heq
    cases as with
    | nil => cases heq
    | cons a as =>
      obtain ⟨c, tail, hcons, hc⟩ := (hname a).exists_cons
      obtain ⟨-, -, -, -, -, -, hmark, -⟩ := isBareKey_ne hc
      simp_all [pairText]
  · exact readLinesUpTo_pairs hname hvalue as hfuel

end

namespace Entries

variable {α : Type} [DecidableEq α] {name : α → List Char} {node : α → Node}

/-- A table of named values has the value of each name in it and no others. -/
lemma get?_map (hinj : Function.Injective name) (as : List α) (a : α) :
    get? (as.map fun b => (name b, node b)) (name a) = if a ∈ as then some (node a) else none := by
  induction as with
  | nil => rfl
  | cons b as ih =>
    rw [get?] at ih ⊢
    by_cases heq : b = a
    · simp [heq]
    · have hne : name b ≠ name a := fun h => heq (hinj h)
      rw [List.map_cons, List.find?_cons_of_neg (by simpa using hne), ih]
      simp [Ne.symm heq]

lemma addLines_pairs {expr : α → Expr} (hinj : Function.Injective name)
    (hnode : ∀ a, Node.ofExpr (expr a) = some (node a)) {done as : List α}
    (hnodup : (done ++ as).Nodup) :
    addLines (done.map fun a => (name a, node a)) []
        (as.map fun a => Line.pair [name a] (expr a)) =
      some ((done ++ as).map fun a => (name a, node a)) := by
  induction as generalizing done with
  | nil => simp [addLines]
  | cons a as ih =>
    have hnew : a ∉ done := fun hmem =>
      (List.nodup_append.1 hnodup).2.2 a hmem a List.mem_cons_self rfl
    have hline : addLine (done.map fun a => (name a, node a)) [] (.pair [name a] (expr a)) =
        some ((done ++ [a]).map fun a => (name a, node a), []) := by
      simp [addLine, hnode, descend, insertDotted, add?, get?_map hinj, hnew]
    have hsplit : ((done ++ [a]) ++ as).Nodup := by simpa using hnodup
    rw [List.map_cons, addLines, hline]
    dsimp only
    rw [ih hsplit]
    simp

/-- A document of pairs is read as the table of the pairs. -/
theorem read_pairs {value : α → List Char} {expr : α → Expr} (hinj : Function.Injective name)
    (hname : ∀ a, IsBareName (name a)) (hvalue : ∀ a, (expr a).WrittenAs (value a))
    (hnode : ∀ a, Node.ofExpr (expr a) = some (node a)) {as : List α} (hnodup : as.Nodup) :
    read (as.flatMap fun a => pairText (name a) (value a)) =
      some (as.map fun a => (name a, node a)) := by
  rw [read, readLines_pairs hname hvalue]
  have hnone : ([] ++ as).Nodup := hnodup
  exact addLines_pairs hinj hnode hnone

end Entries

end ConsoleMemory.Toml
