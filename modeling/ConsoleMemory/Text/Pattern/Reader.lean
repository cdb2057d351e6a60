import ConsoleMemory.Text.Alphanumeric
import ConsoleMemory.Text.Pattern.Bracket
import ConsoleMemory.Text.Pattern.Size

/-!
# Reading search patterns

The written form of a pattern: characters, the dot, brackets, escapes, groups, alternatives, flags,
anchors and repetitions. It is read sign by sign. Groups that are open are kept on a stack, each with
what was read before it. A form that is not understood, is nested too deep or is too large is no
pattern.
-/

namespace ConsoleMemory.Text.Pattern

/-- A part of a sequence: a pattern with the depth of its written form. A change of flags is a part
too, which matches nothing and cannot be repeated. -/
structure Part where
  pattern : Pattern := .empty
  depth : Nat := 0
  isFlags : Bool := false
  deriving DecidableEq, Repr

/-- The part that parts make that follow each other, the last one first. -/
def Part.chained : List Part → Part
  | [] => {}
  | [part] => part
  | parts =>
    { pattern := parts.foldl (fun after part => chain part.pattern after) .empty
      depth := (parts.map Part.depth).foldl max 0 + 1 }

/-- The part that alternatives make, the last one first. -/
def Part.alternated : Part → List Part → Part
  | part, [] => part
  | part, others =>
    { pattern := others.foldl (fun after other => choose other.pattern after) part.pattern
      depth := (others.map Part.depth).foldl max part.depth + 1 }

/-- An open group, or the whole: the alternatives that are done and the parts of the current one, the
last ones first. -/
structure Level where
  alternatives : List Part := []
  parts : List Part := []
  deriving DecidableEq, Repr

namespace Level

/-- A level with one more part. -/
def add (level : Level) (part : Part) : Level := { level with parts := part :: level.parts }

/-- A level whose next alternative starts. -/
def alternate (level : Level) : Level where
  alternatives := Part.chained level.parts :: level.alternatives

/-- What a level holds. -/
def whole (level : Level) : Part :=
  Part.alternated (Part.chained level.parts) level.alternatives

/-- A level whose last part is repeated. There has to be one. -/
def repeat? (level : Level) (least : Nat) (more : Option Nat) : Option Level :=
  match level.parts with
  | [] => none
  | part :: parts =>
    if part.isFlags then none
    else
      some { level with
        parts := { pattern := part.pattern.times least more, depth := part.depth + 1 } :: parts }

end Level

/-- How far a pattern is read: the levels around the current one, each with the flags it goes on with
and whether the group inside of it is one that captures; the current level with its flags; and the
names of groups. -/
structure Reading where
  outer : List (Level × Flags × Bool) := []
  level : Level := {}
  flags : Flags := {}
  names : List (List Char) := []
  deriving Repr

namespace Reading

/-- A reading with one more part. -/
def add (r : Reading) (part : Part) : Reading := { r with level := r.level.add part }

/-- A reading inside of a new group. -/
def enter (r : Reading) (flags : Flags) (captures : Bool) : Reading :=
  { r with outer := (r.level, r.flags, captures) :: r.outer, level := {}, flags }

/-- A reading after the current group, if there is one. -/
def leave? (r : Reading) : Option Reading :=
  match r.outer with
  | [] => none
  | (level, flags, captures) :: outer =>
    let inner := r.level.whole
    let pattern := if captures then .group inner.pattern else inner.pattern
    some { r with outer, level := level.add { pattern, depth := inner.depth + 1 }, flags }

end Reading

/-- Whether a character may be in the name of a group. -/
def isNameChar (c : Char) : Bool :=
  c == '_' || c == '.' || c == '[' || c == ']' || isAlphanumeric c

/-- Reads the name of a group up to its end. It starts with a letter or an underscore. -/
def readName (cs : List Char) : Option (List Char × List Char) :=
  match cs.takeWhile isNameChar, cs.dropWhile isNameChar with
  | c :: name, '>' :: rest =>
    if c == '_' || isAlphabetic c then some (c :: name, rest) else none
  | _, _ => none

/-- Reads what comes after an opening parenthesis: a named group, whose name is new; flags, for a
group of their own or for what follows; or else a group that captures. -/
def readOpening (r : Reading) (cs : List Char) : Option (Reading × List Char) :=
  let named (cs : List Char) : Option (Reading × List Char) :=
    (readName cs).bind fun (name, rest) =>
      if r.names.contains name then none
      else some ({ r.enter r.flags true with names := name :: r.names }, rest)
  match r.flags.skip cs with
  | '?' :: 'P' :: '<' :: rest => named rest
  | '?' :: '<' :: rest => named rest
  | '?' :: rest =>
    (r.flags.read true [] rest).map fun (flags, isGroup, rest) =>
      if isGroup then (r.enter flags false, rest)
      else ({ r.add { isFlags := true } with flags }, rest)
  | rest => some (r.enter r.flags true, rest)

/-- Reads digits after the number they go on from. The fuel bounds how many. -/
def readNumber (flags : Flags) (value : Option Nat) : (fuel : Nat) → List Char → Option Nat × List Char
  | 0, cs => (value, cs)
  | _ + 1, [] => (value, [])
  | fuel + 1, c :: rest =>
    if c.isDigit then
      readNumber flags (some (10 * value.getD 0 + (c.toNat - 0x30))) fuel (flags.skip rest)
    else (value, c :: rest)

/-- Reads a count with white space around it. It has 32 bits. -/
def readCount (flags : Flags) (cs : List Char) : Option (Nat × List Char) :=
  match readNumber flags none cs.length (trimStart cs) with
  | (some n, rest) => if n < 0x100000000 then some (n, trimStart rest) else none
  | (none, _) => none

/-- Reads the bounds of a repetition after an opening brace: the least number of times and how many
may be more. -/
def readBounds (flags : Flags) (cs : List Char) : Option ((Nat × Option Nat) × List Char) :=
  match readCount flags (flags.skip cs) with
  | some (least, '\x7d' :: rest) => some ((least, some 0), rest)
  | some (least, ',' :: rest) =>
    match flags.skip rest with
    | '\x7d' :: rest => some ((least, none), rest)
    | rest =>
      match readCount flags rest with
      | some (most, '\x7d' :: rest) =>
        if least ≤ most then some ((least, some (most - least)), rest) else none
      | _ => none
  | _ => none

/-- Drops a question mark after a repetition: it asks for the shortest match, and a search only asks
whether there is one. -/
def dropShortest : List Char → List Char
  | '?' :: rest => rest
  | rest => rest

/-- The pattern of a sign, if the flags let it be one. Without classes beyond ASCII, letters of ASCII
have cases. -/
def signPattern? (flags : Flags) : Sign → Option Pattern
  | .look condition => some (look condition)
  | .set set => some (oneOf set)
  | .char c =>
    if flags.bothCases && flags.wide then none
    else some (oneOf (if c.isAlpha then flags.fold (.single c) else .single c))

/-- The pattern of the dot, which is not there without classes beyond ASCII. -/
def dotPattern? (flags : Flags) : Option Pattern :=
  if !flags.wide then none
  else if flags.dotBreaks then some (oneOf (.complement {}))
  else if flags.returns then some (oneOf ((CharSet.single '\n').union (.single '\r')).complement)
  else some (oneOf (CharSet.single '\n').complement)

/-- What the anchor at the start stands for. -/
def startLook (flags : Flags) : Look :=
  if !flags.perLine then .start else if flags.returns then .returnLineStart else .lineStart

/-- What the anchor at the end stands for. -/
def stopLook (flags : Flags) : Look :=
  if !flags.perLine then .stop else if flags.returns then .returnLineStop else .lineStop

/-- Reads a single character, an escape, the dot or an anchor. -/
def readSingle (flags : Flags) : List Char → Option (Pattern × List Char)
  | [] => none
  | '.' :: rest => (dotPattern? flags).map (·, rest)
  | '^' :: rest => some (look (startLook flags), rest)
  | '$' :: rest => some (look (stopLook flags), rest)
  | '\\' :: rest =>
    (readEscape flags rest).bind fun (sign, rest) => (signPattern? flags sign).map (·, rest)
  | c :: rest => (signPattern? flags (.char c)).map (·, rest)

/-- Reads the next sign of a pattern. -/
def readSign (r : Reading) (cs : List Char) : Option (Reading × List Char) :=
  let repeated (least : Nat) (more : Option Nat) (rest : List Char) :
      Option (Reading × List Char) :=
    (r.level.repeat? least more).map fun level => ({ r with level }, dropShortest rest)
  match cs with
  | '(' :: rest => readOpening r rest
  | ')' :: rest => r.leave?.map (·, rest)
  | '|' :: rest => some ({ r with level := r.level.alternate }, rest)
  | '[' :: rest =>
    (readBracket r.flags rest).map fun (read, rest) =>
      (r.add { pattern := .oneOf read.set, depth := read.depth }, rest)
  | '?' :: rest => repeated 0 (some 1) rest
  | '*' :: rest => repeated 0 none rest
  | '+' :: rest => repeated 1 none rest
  | '\x7b' :: rest =>
    (readBounds r.flags rest).bind fun ((least, more), rest) =>
      repeated least more (r.flags.skip rest)
  | cs => (readSingle r.flags cs).map fun (pattern, rest) => (r.add { pattern }, rest)

/-- Reads signs up to the end of a text. The fuel bounds their number. -/
def readFrom : (fuel : Nat) → Reading → List Char → Option Reading
  | 0, _, _ => none
  | fuel + 1, r, cs =>
    match r.flags.skip cs with
    | [] => some r
    | cs => (readSign r cs).bind fun (r, rest) => readFrom fuel r rest

/-- The greatest depth of the written form. -/
def depthLimit : Nat := 250

/-- Reads a pattern; none if it is not understood. -/
def read? (cs : List Char) : Option Pattern :=
  match readFrom (cs.length + 1) {} cs with
  | none => none
  | some r =>
    let whole := r.level.whole
    if r.outer.isEmpty && decide (whole.depth ≤ depthLimit) && !whole.pattern.asksUnknown &&
        whole.pattern.fits then
      some whole.pattern
    else none

end ConsoleMemory.Text.Pattern
