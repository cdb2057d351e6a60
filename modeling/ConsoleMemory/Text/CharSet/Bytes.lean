import ConsoleMemory.Text.CharSet

/-!
# Sets of characters by their bytes

The UTF-8 form of a set: sequences of ranges of bytes, such that a character is in the set just when
its bytes are in the ranges of one of them. Sequences that start alike share what comes first, and
those that go on alike share what comes after.
-/

namespace ConsoleMemory.Text.CharSet

/-- Ranges of bytes, one for each byte of a character. -/
abbrev ByteRanges := List (Nat × Nat)

/-- The sequences for the numbers between two bounds, with so many bytes after the first, which the
marks of its high bits are added to. -/
def sequencesBetween (marks : Nat) : (count : Nat) → (low high : Nat) → List ByteRanges
  | 0, low, high => [[(marks + low, marks + high)]]
  | count + 1, low, high =>
    let weight := 64 ^ (count + 1)
    let first := low / weight
    let last := high / weight
    let under (digit low high : Nat) : List ByteRanges :=
      (sequencesBetween 0x80 count low high).map ((marks + digit, marks + digit) :: ·)
    if first == last then under first (low % weight) (high % weight)
    else
      let cutsFirst := low % weight != 0
      let cutsLast := high % weight != weight - 1
      let start := if cutsFirst then first + 1 else first
      let stop := if cutsLast then last else last + 1
      (if cutsFirst then under first (low % weight) (weight - 1) else []) ++
        (if start < stop then
          [(marks + start, marks + stop - 1) :: List.replicate (count + 1) (0x80, 0xBF)]
        else []) ++
        (if cutsLast then under last 0 (high % weight) else [])

/-- The code points that take equally many bytes: the marks of the first byte, the number of further
bytes, and the first and the last code point. Those between the two parts of three bytes are no
characters. -/
def byteLengths : List (Nat × Nat × Nat × Nat) :=
  [(0x00, 0, 0x00, 0x7F), (0xC0, 1, 0x80, 0x7FF), (0xE0, 2, 0x800, 0xD7FF), (0xE0, 2, 0xE000, 0xFFFF),
    (0xF0, 3, 0x10000, 0x10FFFF)]

/-- The sequences of a set, in order. -/
def sequences (s : CharSet) : List ByteRanges :=
  s.runs.flatMap fun (low, high) =>
    byteLengths.flatMap fun (marks, count, first, last) =>
      let low := max low first
      let high := min high last
      if low ≤ high then sequencesBetween marks count low high else []

/-- The ranges that some sequences start with. -/
def heads (sequences : List ByteRanges) : List (Nat × Nat) :=
  (sequences.filterMap List.head?).eraseDups

/-- The nodes of the tree of some sequences, each with the sequences that lead on from it. The depth
bounds their lengths. -/
def nodes : (depth : Nat) → List ByteRanges → List (List ByteRanges)
  | 0, sequences => [sequences]
  | depth + 1, sequences =>
    sequences :: (heads sequences).flatMap fun range =>
      nodes depth <| sequences.filterMap fun
        | [] => none
        | head :: rest => if head == range then some rest else none

/-- The nodes of the tree of a set. -/
def tree (s : CharSet) : List (List ByteRanges) := nodes 4 s.sequences

end ConsoleMemory.Text.CharSet
