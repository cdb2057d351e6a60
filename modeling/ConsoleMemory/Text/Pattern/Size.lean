import ConsoleMemory.Text.CharSet.Bytes
import ConsoleMemory.Text.Pattern

/-!
# The size of search patterns

A pattern stands for a machine that follows it through the bytes of a text, forward or backward. The
size of the machine is bounded, and so a short pattern with large counts may be too much. Most states
take 32 bytes; those that choose between ways take more.
-/

namespace ConsoleMemory.Text.Pattern

/-- The way a machine goes through a text. -/
inductive Direction where
  | forward
  | backward
  deriving DecidableEq, Repr

/-- The size of a machine for one character of a set. A lone character is a chain of bytes and a set
of ASCII characters a single choice. Of other sets the machine shares common ends when it goes
forward. -/
def setSize (direction : Direction) (set : CharSet) : Nat :=
  match set.runs with
  | [] => 32
  | [(low, high)] =>
    if low == high then 32 * (Char.ofNat low).utf8Size
    else severalSize
  | _ => severalSize
where
  /-- The size for more than one character. -/
  severalSize : Nat :=
    if set.isAscii then 64 + 8 * set.runs.length
    else
      match direction with
      | .forward =>
        set.tree.eraseDups.foldl
          (fun total node => total + (32 + 8 * (CharSet.heads node).length)) 0
      | .backward => 32 * (set.tree.length + 1) + 4 * set.sequences.length

/-- The size of a machine for a pattern, which may be one branch of a choice. A choice of several
branches is a single state, and a repetition is spelled out. -/
def size (direction : Direction) (isBranch : Bool) : Pattern → Nat
  | empty | look _ => 32 + branch
  | oneOf set => setSize direction set + branch
  | seq p q => p.size direction false + q.size direction false + branch
  | either p q => p.size direction true + q.size direction true + if isBranch then 0 else 64
  | group p => p.size direction false + branch + if direction == .forward then 64 else 0
  | repeated p least more =>
    let once := p.size direction false
    branch +
      match least, more with
      | 0, some 1 => once + 72
      | 0, none => once + if p.canBeVoid then 112 else 40
      | 1, none => once + 40
      | _, none => least * once + 40
      | _, some 0 => least * once
      | _, some more => (if least == 0 then 32 else least * once) + 32 + more * (once + 40)
where
  /-- What a branch takes in its choice. -/
  branch : Nat := if isBranch then 4 else 0

/-- The largest size of a machine. -/
def sizeLimit : Nat := 0xA00000

/-- Whether the machines for a pattern are small enough, with their starts and ends. -/
def fits (p : Pattern) : Bool :=
  decide (p.size .forward false + 208 ≤ sizeLimit ∧ p.size .backward false + 144 ≤ sizeLimit)

end ConsoleMemory.Text.Pattern
