import ConsoleMemory.Environment
import Mathlib.Data.List.TakeWhile

/-!
# The variables a run starts with

A variable of the process keeps its value. Any other variable gets the first value that the file
`.env` has for it, where every value is read with the variables that were set before its line.
-/

namespace ConsoleMemory

namespace Variables

/-- A name that a file can give a value to, unlike the empty one and those with an equals sign. -/
def IsName (name : String) : Prop := name ≠ "" ∧ '=' ∉ name.toList

lemma get?_concat {name key : String} (vars : Variables) (value : String) (hname : IsName name)
    (hkey : '=' ∉ key.toList) :
    get? (vars ++ [(key, value)]) name =
      (vars.get? name).or (if name = key then some value else none) := by
  have hempty : ¬ name.isEmpty = true := by simpa using hname.1
  simp only [get?, if_neg hempty, List.findSome?_append, List.findSome?_singleton]
  rw [valueAfter?_append _ hname.2 hkey]
  congr 1
  by_cases h : name = key
  · rw [if_pos h, if_pos (congrArg String.toList h), Option.map_some, String.ofList_toList]
  · rw [if_neg h, if_neg fun hlist => h (String.toList_inj.1 hlist), Option.map_none]

lemma get?_of_define? {vars after : Variables} {name key value : String}
    (h : vars.define? key value = some after) (hname : IsName name) (hkey : '=' ∉ key.toList) :
    after.get? name = (vars.get? name).or (if name = key then some value else none) := by
  unfold define? at h
  split at h
  case h_1 old hold =>
    obtain rfl := Option.some.inj h
    by_cases hsame : name = key
    · rw [hsame, hold, Option.some_or]
    · rw [if_neg hsame, Option.or_none]
  case h_2 =>
    split at h
    · cases h
    · obtain rfl := Option.some.inj h
      exact vars.get?_concat value hname hkey

end Variables

namespace EnvironmentFile

/-! ### Keys -/

lemma notMem_of_readKey {cs key rest : List Char} (h : readKey cs = some (key, rest)) :
    '=' ∉ key := by
  unfold readKey at h
  split at h
  · cases h
  · split at h
    · obtain ⟨rfl, -⟩ := Prod.mk.inj (Option.some.inj h)
      intro hmem
      have hchar := List.mem_takeWhile_imp hmem
      cases hchar
    · cases h

lemma notMem_of_readAssignment {cs key rest : List Char}
    (h : readAssignment cs = some (key, rest)) : '=' ∉ key := by
  unfold readAssignment at h
  split at h
  case h_1 hkey =>
    obtain ⟨rfl, -⟩ := Prod.mk.inj (Option.some.inj h)
    exact notMem_of_readKey hkey
  case h_2 =>
    split at h
    · split at h
      case h_1 hkey =>
        obtain ⟨rfl, -⟩ := Prod.mk.inj (Option.some.inj h)
        exact notMem_of_readKey hkey
      case h_2 => cases h
    · cases h
  case h_3 => cases h

lemma notMem_of_readLine {vars : Variables} {line : List Char} {name value : String}
    (h : readLine vars line = .assignment name value) : '=' ∉ name.toList := by
  have hname : ∀ key rest : List Char, String.ofList key = name →
      readAssignment (Text.trimStart (Text.trimEnd line)) = some (key, rest) →
        '=' ∉ name.toList := by
    rintro key rest rfl hread
    rw [String.toList_ofList]
    exact notMem_of_readAssignment hread
  unfold readLine at h
  dsimp only at h
  split at h
  · cases h
  · cases h
  · split at h
    · cases h
    case h_2 key hread => exact hname key _ (LineResult.assignment.inj h).1 hread
    case h_3 key _ hread => exact hname key _ (LineResult.assignment.inj h).1 hread
    case h_4 key _ _ _ hread =>
      split at h
      · exact hname key _ (LineResult.assignment.inj h).1 hread
      · cases h

/-! ### Lines -/

/-- The assignments of lines, as far as they can be read, each read with the variables set before
it. -/
def assignments (vars : Variables) : List (Option (List Char)) → List (String × String)
  | [] => []
  | none :: _ => []
  | some line :: rest =>
    match readLine vars line with
    | .blank => assignments vars rest
    | .assignment name value =>
      (name, value) :: assignments ((vars.define? name value).getD vars) rest
    | .unreadable => []

/-- By induction on the lines, while more and more variables are set. -/
theorem get?_of_applyLines {after : Variables} {name : String} (hname : Variables.IsName name)
    (lines : List (Option (List Char))) : ∀ {vars : Variables},
      applyLines vars lines = some after →
        after.get? name = (vars.get? name).or ((assignments vars lines).lookup name) := by
  induction lines with
  | nil =>
    intro vars h
    obtain rfl := Option.some.inj h
    exact Option.or_none.symm
  | cons line rest ih =>
    intro vars h
    cases line with
    | none =>
      obtain rfl := Option.some.inj h
      exact Option.or_none.symm
    | some line =>
      rw [applyLines] at h
      rw [assignments]
      cases hline : readLine vars line with
      | blank =>
        rw [hline] at h
        exact ih h
      | unreadable =>
        rw [hline] at h
        obtain rfl := Option.some.inj h
        exact Option.or_none.symm
      | assignment key value =>
        rw [hline] at h
        dsimp only at h ⊢
        cases hnext : vars.define? key value with
        | none =>
          rw [hnext] at h
          cases h
        | some next =>
          rw [hnext] at h
          rw [ih h, Variables.get?_of_define? hnext hname (notMem_of_readLine hline),
            Option.or_assoc, List.lookup_cons, Option.getD_some]
          by_cases hsame : name = key
          · simp [hsame]
          · simp [hsame, beq_eq_false_iff_ne.2 hsame]

/-! ### The file -/

/-- The assignments of the file `.env`. -/
def assigned (files : Files) (vars : Variables) : List (String × String) :=
  match find? files with
  | some calls => assignments vars (joinLines [] .plain (lineTexts calls))
  | none => []

/-- The value that the file `.env` has for a variable: the first. -/
def value? (files : Files) (vars : Variables) (name : String) : Option String :=
  (assigned files vars).lookup name

/-- Variables that are set win over the file. -/
theorem get?_of_load {files : Files} {vars after : Variables} {name : String}
    (hname : Variables.IsName name) (h : load files vars = some after) :
    after.get? name = (vars.get? name).or (value? files vars name) := by
  unfold load at h
  unfold value? assigned
  cases hfound : find? files with
  | some calls =>
    rw [hfound] at h
    exact get?_of_applyLines hname _ h
  | none =>
    rw [hfound] at h
    obtain rfl := Option.some.inj h
    exact Option.or_none.symm

end EnvironmentFile

end ConsoleMemory
