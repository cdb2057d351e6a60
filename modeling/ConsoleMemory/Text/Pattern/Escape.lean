import ConsoleMemory.Text.Hex
import ConsoleMemory.Text.Pattern
import ConsoleMemory.Text.Pattern.Flags

/-!
# Escapes in search patterns

What a backslash and the signs after it stand for: a character, by a letter, by its number or as
itself; a named class; or a condition on the position. Every reader gives the rest of the text, or
nothing where there is no such escape.
-/

namespace ConsoleMemory.Text.Pattern

/-- A single sign of a pattern. -/
inductive Sign where
  | char (c : Char)
  | set (set : CharSet)
  | look (condition : Look)
  deriving DecidableEq, Repr

/-- The letters for control characters. -/
def controlLetters : List (Char × Char) :=
  [('a', '\x07'), ('f', '\x0c'), ('t', '\t'), ('n', '\n'), ('r', '\r'), ('v', '\x0b')]

/-- Reads so many hexadecimal digits after the number they go on from. -/
def readDigits (flags : Flags) (value : Nat) : (count : Nat) → List Char → Option (Nat × List Char)
  | 0, cs => some (value, cs)
  | count + 1, cs =>
    match flags.skip cs with
    | [] => none
    | c :: rest =>
      (Hex.digitValue? c).bind fun digit => readDigits flags (16 * value + digit) count rest

/-- Reads hexadecimal digits up to a closing brace; there is at least one. The fuel bounds their
number. -/
def readBracedDigits (flags : Flags) (value : Option Nat) :
    (fuel : Nat) → List Char → Option (Nat × List Char)
  | 0, _ => none
  | fuel + 1, cs =>
    match flags.skip cs with
    | [] => none
    | c :: rest =>
      if c == '\x7d' then value.map (·, rest)
      else (Hex.digitValue? c).bind fun digit =>
        readBracedDigits flags (some (16 * value.getD 0 + digit)) fuel rest

/-- Reads the number of a character, with a fixed number of digits or in braces. Without classes
beyond ASCII two digits may only stand for an ASCII character. -/
def readCode (flags : Flags) (count : Nat) (cs : List Char) : Option (Sign × List Char) :=
  let number : Option (Nat × List Char) :=
    match flags.skip cs with
    | '\x7b' :: rest => readBracedDigits flags none (rest.length + 1) rest
    | rest =>
      (readDigits flags 0 count rest).filter fun read => flags.wide || count != 2 || read.1 < 0x80
  match number with
  | some (n, rest) => if n.isValidChar then some (.char (Char.ofNat n), rest) else none
  | none => none

/-- A condition about words; those about words in all scripts are not known. -/
def wordSign (flags : Flags) (condition : Look) : Sign :=
  .look (if flags.wide then .unknownEdge else condition)

/-- The conditions about words that have names. -/
def namedEdge? (name : String) : Option Look :=
  match name with
  | "start" => some .wordStart
  | "end" => some .wordStop
  | "start-half" => some .noWordBefore
  | "end-half" => some .noWordAfter
  | _ => none

/-- Reads letters and dashes. The fuel bounds their number. -/
def readEdgeName (flags : Flags) : (fuel : Nat) → List Char → List Char × List Char
  | 0, cs => ([], cs)
  | _ + 1, [] => ([], [])
  | fuel + 1, c :: rest =>
    if c.isAlpha || c == '-' then
      let (name, rest) := readEdgeName flags fuel (flags.skip rest)
      (c :: name, rest)
    else ([], c :: rest)

/-- Reads what comes after the letter for the edge of a word: a name in braces asks for a kind of
edge. A brace before something else starts a count. -/
def readEdge (flags : Flags) : List Char → Option (Sign × List Char)
  | '\x7b' :: rest =>
    if (flags.skip rest).isEmpty then none
    else
      match readEdgeName flags rest.length (flags.skip rest) with
      | ([], _) => some (wordSign flags .wordEdge, '\x7b' :: rest)
      | (name, '\x7d' :: rest) =>
        (namedEdge? (String.ofList name)).map fun edge => (wordSign flags edge, rest)
      | _ => none
  | rest => some (wordSign flags .wordEdge, rest)

/-- The class of a letter. Classes of all scripts are not known. -/
def lettered? (flags : Flags) (letter : Char) : Option CharSet :=
  if flags.wide then none
  else
    match letter with
    | 'd' => some .digits
    | 's' => some .spaces
    | 'w' => some .wordChars
    | _ => none

/-- Reads an escape after its backslash. -/
def readEscape (flags : Flags) : List Char → Option (Sign × List Char)
  | [] => none
  | 'x' :: rest => readCode flags 2 rest
  | 'u' :: rest => readCode flags 4 rest
  | 'U' :: rest => readCode flags 8 rest
  | 'A' :: rest => some (.look .start, rest)
  | 'z' :: rest => some (.look .stop, rest)
  | 'b' :: rest => readEdge flags rest
  | 'B' :: rest => some (wordSign flags .noWordEdge, rest)
  | '<' :: rest => some (wordSign flags .wordStart, rest)
  | '>' :: rest => some (wordSign flags .wordStop, rest)
  | c :: rest =>
    match controlLetters.lookup c, lettered? flags c with
    | some control, _ => some (.char control, rest)
    | none, some set => some (.set set, rest)
    | none, none =>
      if c.isAlphanum || decide (0x7F < c.toNat) then none else some (.char c, rest)

end ConsoleMemory.Text.Pattern
