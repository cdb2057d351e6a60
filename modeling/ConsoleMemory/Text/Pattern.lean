import ConsoleMemory.Text.CharSet

/-!
# Search patterns

Regular expressions to search a text for. A pattern is followed through a text by its partial
derivatives: the patterns one of which has to match what comes after a character. A repetition keeps
its bounds as numbers, so that a pattern has few derivatives, and a search keeps a list of them
without repetitions.
-/

namespace ConsoleMemory.Text

/-- A condition on a position of a text: its start or end, the start or end of a line, with a lone
line feed or with returns as line breaks, or an edge of a word of ASCII characters. The edges of
words in all scripts are not known here. -/
inductive Look where
  | start
  | stop
  | lineStart
  | lineStop
  | returnLineStart
  | returnLineStop
  | wordEdge
  | noWordEdge
  | wordStart
  | wordStop
  | noWordBefore
  | noWordAfter
  | unknownEdge
  deriving DecidableEq, Repr

namespace Look

/-- Whether a character is there and belongs to a word. -/
def isWord (c : Option Char) : Bool := c.any CharSet.wordChars.holds

/-- Whether a condition holds between the characters before and after a position. -/
def holds (before after : Option Char) : Look → Bool
  | start => before.isNone
  | stop => after.isNone
  | lineStart => before.isNone || before == some '\n'
  | lineStop => after.isNone || after == some '\n'
  | returnLineStart =>
    before.isNone || before == some '\n' || (before == some '\r' && after != some '\n')
  | returnLineStop =>
    after.isNone || after == some '\r' || (after == some '\n' && before != some '\r')
  | wordEdge => isWord before != isWord after
  | noWordEdge => isWord before == isWord after
  | wordStart => !isWord before && isWord after
  | wordStop => isWord before && !isWord after
  | noWordBefore => !isWord before
  | noWordAfter => !isWord after
  | unknownEdge => false

end Look

/-- A regular expression: nothing, a condition on the position, one character of a set, one
expression after another, one of two, an expression a least number of times and up to some more, or
without bound, or a group. -/
inductive Pattern where
  | empty
  | look (condition : Look)
  | oneOf (set : CharSet)
  | seq (first second : Pattern)
  | either (left right : Pattern)
  | repeated (body : Pattern) (least : Nat) (more : Option Nat)
  | group (body : Pattern)
  deriving DecidableEq, Repr

namespace Pattern

/-- One pattern after another, where the empty pattern is left out. -/
def chain : Pattern → Pattern → Pattern
  | empty, q => q
  | p, empty => p
  | p, q => seq p q

/-- One of two patterns; of two characters, one of the set of both. -/
def choose : Pattern → Pattern → Pattern
  | oneOf s, oneOf t => oneOf (s.union t)
  | p, q => either p q

/-- Whether a pattern can only match nothing. -/
def isVoid : Pattern → Bool
  | empty | look _ => true
  | oneOf _ => false
  | seq p q | either p q => p.isVoid && q.isVoid
  | repeated p _ _ | group p => p.isVoid

/-- Whether a pattern may match nothing, if its conditions hold. -/
def canBeVoid : Pattern → Bool
  | empty | look _ => true
  | oneOf _ => false
  | seq p q => p.canBeVoid && q.canBeVoid
  | either p q => p.canBeVoid || q.canBeVoid
  | repeated p least _ => least == 0 || p.canBeVoid
  | group p => p.canBeVoid

/-- The bounds of a repetition that are as good as given ones. More than one time is as good as once
if the pattern can only match nothing. -/
def bounds (p : Pattern) (least : Nat) (more : Option Nat) : Nat × Option Nat :=
  if !p.isVoid then (least, more)
  else if least = 0 then (0, some (min (more.getD 1) 1))
  else (1, some 0)

/-- A pattern a number of times; no time at all is nothing. -/
def times (p : Pattern) (least : Nat) (more : Option Nat) : Pattern :=
  match p.bounds least more with
  | (0, some 0) => empty
  | (1, some 0) => p
  | (least, more) => repeated p least more

/-- Whether a pattern matches nothing between two characters. -/
def nullable (before after : Option Char) : Pattern → Bool
  | empty => true
  | look condition => condition.holds before after
  | oneOf _ => false
  | seq p q => p.nullable before after && q.nullable before after
  | either p q => p.nullable before after || q.nullable before after
  | repeated p least _ => least == 0 || p.nullable before after
  | group p => p.nullable before after

/-- What a repetition is after one time that is not for nothing. Where the pattern also matches
nothing, times for nothing can make up the least number. -/
def remainder (p : Pattern) (nullable : Bool) (least : Nat) (more : Option Nat) : Pattern :=
  if nullable then repeated p 0 (more.map (least + · - 1))
  else
    match least with
    | 0 => repeated p 0 (more.map (· - 1))
    | least + 1 => repeated p least more

/-- The patterns one of which has to match what follows a character, where a pattern starts. -/
def derivatives (before : Option Char) (c : Char) : Pattern → List Pattern
  | empty | look _ => []
  | oneOf set => if set.holds c then [empty] else []
  | seq p q =>
    (p.derivatives before c).map (chain · q) ++
      if p.nullable before (some c) then q.derivatives before c else []
  | either p q => p.derivatives before c ++ q.derivatives before c
  | repeated p least more =>
    if least == 0 && more == some 0 then []
    else (p.derivatives before c).map (chain · (p.remainder (p.nullable before (some c)) least more))
  | group p => p.derivatives before c

/-- Whether a pattern matches some part of a text that starts at a position or later, or one of the
patterns that are under way matches from that position on. -/
def searchFrom (pattern : Pattern) (before : Option Char) (underWay : List Pattern) :
    List Char → Bool
  | [] => (pattern :: underWay).any (·.nullable before none)
  | c :: rest =>
    (pattern :: underWay).any (·.nullable before (some c)) ||
      searchFrom pattern (some c)
        ((pattern :: underWay).flatMap (·.derivatives before c)).eraseDups rest

/-- Whether a pattern matches some part of a text. -/
def search (pattern : Pattern) (cs : List Char) : Bool := searchFrom pattern none [] cs

/-- Whether a pattern asks for an edge of a word that is not known here. -/
def asksUnknown : Pattern → Bool
  | empty | oneOf _ => false
  | look condition => condition == .unknownEdge
  | seq p q | either p q => p.asksUnknown || q.asksUnknown
  | repeated p _ _ | group p => p.asksUnknown

end Pattern

end ConsoleMemory.Text
