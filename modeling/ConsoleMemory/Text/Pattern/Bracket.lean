import ConsoleMemory.Text.Pattern.Escape

/-!
# Brackets in search patterns

A class in brackets: characters, ranges, named classes and further brackets, whose union is taken
unless an operator stands between them. Brackets that are open are kept on a stack, each with what
it has so far. The depth of a class is the greatest number of brackets, operators and unions around
one of its members.
-/

namespace ConsoleMemory.Text.Pattern

/-- A set and how deep its written form is. -/
structure Nested where
  set : CharSet := {}
  depth : Nat := 0
  deriving DecidableEq, Repr

/-- What stands between two classes. -/
inductive Operator where
  | both
  | without
  | eitherAlone
  deriving DecidableEq, Repr

/-- The set an operator makes of two. -/
def Operator.apply : Operator → CharSet → CharSet → CharSet
  | both => .inter
  | without => .diff
  | eitherAlone => .symmDiff

/-- An open bracket: whether it stands for what it does not hold, the class before the last operator
with that operator, and the union and number of the members after it. -/
structure Bracket where
  negated : Bool := false
  left : Option (Operator × Nested) := none
  members : Nested := {}
  count : Nat := 0
  deriving DecidableEq, Repr

namespace Bracket

/-- A bracket with one more member. -/
def add (b : Bracket) (member : Nested) : Bracket :=
  { b with
    members := ⟨b.members.set.union member.set, max b.members.depth member.depth⟩
    count := b.count + 1 }

/-- A bracket with one more set, if that may be written. -/
def addSet? (flags : Flags) (b : Bracket) (set : CharSet) : Option Bracket :=
  if flags.allows set then some (b.add ⟨set, 0⟩) else none

/-- The class that a bracket has so far. -/
def value (flags : Flags) (b : Bracket) : Nested :=
  let right : Nested :=
    { b.members with depth := if 1 < b.count then b.members.depth + 1 else b.members.depth }
  match b.left with
  | none => right
  | some (operator, left) =>
    { set := operator.apply (flags.fold left.set) (flags.fold right.set)
      depth := max left.depth right.depth + 1 }

/-- A bracket that an operator comes after. -/
def operate (flags : Flags) (b : Bracket) (operator : Operator) : Bracket where
  negated := b.negated
  left := some (operator, b.value flags)

/-- The class of a bracket that is closed, if the flags let it be one. -/
def close? (flags : Flags) (b : Bracket) : Option Nested :=
  let held := flags.fold (b.value flags).set
  let set := if b.negated then held.complement else held
  if flags.wide || set.isAscii then some ⟨set, (b.value flags).depth + 1⟩ else none

end Bracket

/-- Counts the dashes at the front of a text. The fuel bounds their number. -/
def readDashes (flags : Flags) : (fuel : Nat) → List Char → Nat × List Char
  | fuel + 1, '-' :: rest =>
    let (count, rest) := readDashes flags fuel (flags.skip rest)
    (count + 1, rest)
  | _, cs => (0, cs)

/-- Opens a bracket: a circumflex stands for what is not in it, and dashes that come first, or a
closing bracket that comes first, are members. -/
def openBracket (flags : Flags) (cs : List Char) : Option (Bracket × List Char) :=
  let (negated, cs) : Bool × List Char :=
    match flags.skip cs with
    | '^' :: rest => (true, flags.skip rest)
    | rest => (false, rest)
  match readDashes flags cs.length cs with
  | (0, ']' :: rest) =>
    (Bracket.addSet? flags { negated := negated } (.single ']')).map fun b => (b, rest)
  | (0, rest) => some ({ negated := negated }, rest)
  | (count, rest) =>
    (Bracket.addSet? flags { negated := negated } (.single '-')).map fun b =>
      ({ b with count := count }, rest)

/-- Reads a named class after the bracket it starts with. A circumflex before the name stands for
what is not in it. -/
def readNamed : List Char → Option (CharSet × List Char)
  | ':' :: cs =>
    let (negated, cs) : Bool × List Char :=
      match cs with
      | '^' :: rest => (true, rest)
      | rest => (false, rest)
    match CharSet.ofName? (String.ofList (cs.takeWhile (· != ':'))), cs.dropWhile (· != ':') with
    | some set, ':' :: ']' :: rest => some (if negated then set.complement else set, rest)
    | _, _ => none
  | _ => none

/-- Reads a sign inside brackets. -/
def readMember (flags : Flags) : List Char → Option (Sign × List Char)
  | [] => none
  | '\\' :: rest => readEscape flags rest
  | c :: rest => some (.char c, rest)

/-- Reads a single sign or a range inside brackets. A dash after a sign makes a range, unless a
closing bracket or a further dash comes next. -/
def readRange (flags : Flags) (cs : List Char) : Option (CharSet × List Char) :=
  match readMember flags cs with
  | none | some (.look _, _) => none
  | some (.set set, rest) =>
    match flags.skip rest with
    | '-' :: more =>
      if flags.next? more == some ']' || flags.next? more == some '-' then some (set, '-' :: more)
      else none
    | rest => some (set, rest)
  | some (.char low, rest) =>
    match flags.skip rest with
    | '-' :: more =>
      if flags.next? more == some ']' || flags.next? more == some '-' then
        some (.single low, '-' :: more)
      else
        match readMember flags (flags.skip more) with
        | some (.char high, rest) =>
          if low ≤ high then some (.between low.toNat high.toNat, rest) else none
        | _ => none
    | rest => some (.single low, rest)

/-- Reads on inside of the innermost open bracket up to the end of the outermost. The fuel bounds
the steps. -/
def readBracketFrom (flags : Flags) :
    (fuel : Nat) → (outer : List Bracket) → Bracket → List Char → Option (Nested × List Char)
  | 0, _, _, _ => none
  | fuel + 1, outer, b, cs =>
    match flags.skip cs with
    | '[' :: rest =>
      match readNamed rest with
      | some (set, rest) =>
        (b.addSet? flags set).bind fun b => readBracketFrom flags fuel outer b rest
      | none =>
        (openBracket flags rest).bind fun (inner, rest) =>
          readBracketFrom flags fuel (b :: outer) inner rest
    | ']' :: rest =>
      match b.close? flags, outer with
      | none, _ => none
      | some read, [] => some (read, rest)
      | some read, b :: outer => readBracketFrom flags fuel outer (b.add read) rest
    | '&' :: '&' :: rest => readBracketFrom flags fuel outer (b.operate flags .both) rest
    | '-' :: '-' :: rest => readBracketFrom flags fuel outer (b.operate flags .without) rest
    | '~' :: '~' :: rest => readBracketFrom flags fuel outer (b.operate flags .eitherAlone) rest
    | cs =>
      match readRange flags cs with
      | some (set, rest) =>
        (b.addSet? flags set).bind fun b => readBracketFrom flags fuel outer b rest
      | none => none

/-- Reads a class after its opening bracket. -/
def readBracket (flags : Flags) (cs : List Char) : Option (Nested × List Char) :=
  (openBracket flags cs).bind fun (b, rest) =>
    readBracketFrom flags (rest.length + 1) [] b rest

end ConsoleMemory.Text.Pattern
