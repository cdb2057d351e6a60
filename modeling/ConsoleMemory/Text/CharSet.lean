/-!
# Sets of characters

A set of characters is a list of runs of code points, in order and apart from each other. Sets have
unions, complements and what follows from them, and the named sets of ASCII.
-/

namespace ConsoleMemory.Text

/-- A set of characters by its runs: the first and the last code point of each. -/
structure CharSet where
  runs : List (Nat × Nat) := []
  deriving DecidableEq, Repr

namespace CharSet

/-- Whether a set holds a character. -/
def holds (s : CharSet) (c : Char) : Bool :=
  s.runs.any fun run => decide (run.1 ≤ c.toNat ∧ c.toNat ≤ run.2)

/-- The characters between two code points. -/
def between (low high : Nat) : CharSet where
  runs := [(low, high)]

/-- The set of one character. -/
def single (c : Char) : CharSet := between c.toNat c.toNat

/-- Adds a run to runs, joined with those it meets or touches. -/
def addRun (low high : Nat) : List (Nat × Nat) → List (Nat × Nat)
  | [] => [(low, high)]
  | (a, b) :: rest =>
    if high + 1 < a then (low, high) :: (a, b) :: rest
    else if b + 1 < low then (a, b) :: addRun low high rest
    else addRun (min a low) (max b high) rest

/-- What one of two sets holds. -/
def union (s t : CharSet) : CharSet where
  runs := t.runs.foldl (fun runs run => addRun run.1 run.2 runs) s.runs

/-- The gaps between runs from a code point on. -/
def gapsFrom (start : Nat) : List (Nat × Nat) → List (Nat × Nat)
  | [] => if start ≤ 0x10FFFF then [(start, 0x10FFFF)] else []
  | (a, b) :: rest =>
    if start < a then (start, a - 1) :: gapsFrom (b + 1) rest else gapsFrom (b + 1) rest

/-- What a set does not hold. -/
def complement (s : CharSet) : CharSet where
  runs := gapsFrom 0 s.runs

/-- What both of two sets hold. -/
def inter (s t : CharSet) : CharSet := (s.complement.union t.complement).complement

/-- What the first of two sets holds and the second does not. -/
def diff (s t : CharSet) : CharSet := s.inter t.complement

/-- What exactly one of two sets holds. -/
def symmDiff (s t : CharSet) : CharSet := (s.diff t).union (t.diff s)

/-- A set with every ASCII letter in both cases if it is there in one. -/
def foldCase (s : CharSet) : CharSet :=
  let upper := (s.inter (between 0x41 0x5A)).runs.map fun run => (run.1 + 0x20, run.2 + 0x20)
  let lower := (s.inter (between 0x61 0x7A)).runs.map fun run => (run.1 - 0x20, run.2 - 0x20)
  (s.union ⟨upper⟩).union ⟨lower⟩

/-- The digits of ASCII. -/
def digits : CharSet where
  runs := [(0x30, 0x39)]

/-- The white space of ASCII. -/
def spaces : CharSet where
  runs := [(0x09, 0x0D), (0x20, 0x20)]

/-- The characters of a word in ASCII: letters, digits and the underscore. -/
def wordChars : CharSet where
  runs := [(0x30, 0x39), (0x41, 0x5A), (0x5F, 0x5F), (0x61, 0x7A)]

/-- The named sets. -/
def ofName? (name : String) : Option CharSet :=
  match name with
  | "alnum" => some ⟨[(0x30, 0x39), (0x41, 0x5A), (0x61, 0x7A)]⟩
  | "alpha" => some ⟨[(0x41, 0x5A), (0x61, 0x7A)]⟩
  | "ascii" => some ⟨[(0x00, 0x7F)]⟩
  | "blank" => some ⟨[(0x09, 0x09), (0x20, 0x20)]⟩
  | "cntrl" => some ⟨[(0x00, 0x1F), (0x7F, 0x7F)]⟩
  | "digit" => some digits
  | "graph" => some ⟨[(0x21, 0x7E)]⟩
  | "lower" => some ⟨[(0x61, 0x7A)]⟩
  | "print" => some ⟨[(0x20, 0x7E)]⟩
  | "punct" => some ⟨[(0x21, 0x2F), (0x3A, 0x40), (0x5B, 0x60), (0x7B, 0x7E)]⟩
  | "space" => some spaces
  | "upper" => some ⟨[(0x41, 0x5A)]⟩
  | "word" => some wordChars
  | "xdigit" => some ⟨[(0x30, 0x39), (0x41, 0x46), (0x61, 0x66)]⟩
  | _ => none

/-- Whether a set holds only ASCII characters. -/
def isAscii (s : CharSet) : Bool := s.runs.all fun run => decide (run.2 ≤ 0x7F)

end CharSet

end ConsoleMemory.Text
