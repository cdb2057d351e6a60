import ConsoleMemory.Text.Blank
import ConsoleMemory.Text.CharSet

/-!
# Flags of search patterns

How a part of a pattern is read and what it means. Flags are switched on and off by letters; spaces
and comments in a pattern are dropped where a flag asks for it.
-/

namespace ConsoleMemory.Text.Pattern

/-- How a part of a pattern is read. -/
structure Flags where
  /-- Letters stand for both of their cases. -/
  bothCases : Bool := false
  /-- The anchors hold at the ends of every line. -/
  perLine : Bool := false
  /-- The dot stands for line breaks too. -/
  dotBreaks : Bool := false
  /-- Carriage returns are line breaks. -/
  returns : Bool := false
  /-- Classes go beyond ASCII. -/
  wide : Bool := true
  /-- White space and comments are dropped. -/
  spaced : Bool := false
  deriving DecidableEq, Repr

namespace Flags

/-- The flags with one of them, by its letter, switched on or off. One letter is about which of
several matches is found, and makes no difference to whether there is one. -/
def set? (flags : Flags) (letter : Char) (isOn : Bool) : Option Flags :=
  match letter with
  | 'i' => some { flags with bothCases := isOn }
  | 'm' => some { flags with perLine := isOn }
  | 's' => some { flags with dotBreaks := isOn }
  | 'R' => some { flags with returns := isOn }
  | 'u' => some { flags with wide := isOn }
  | 'x' => some { flags with spaced := isOn }
  | 'U' => some flags
  | _ => none

/-- Reads letters of flags up to a colon or a closing parenthesis, and says whether it was the
colon. Those after a dash are switched off. None comes twice, the dash is not the last, and there is
at least one before a parenthesis. -/
def read (flags : Flags) (isOn : Bool) (seen : List Char) :
    List Char → Option (Flags × Bool × List Char)
  | [] => none
  | c :: rest =>
    if c == ':' || c == ')' then
      if seen.head? == some '-' || (c == ')' && seen.isEmpty) then none
      else some (flags, c == ':', rest)
    else if seen.contains c then none
    else if c == '-' then read flags false (c :: seen) rest
    else (flags.set? c isOn).bind fun flags => read flags isOn (c :: seen) rest

/-- Drops white space and comments, from inside a comment or not. A comment goes from a number sign
to the end of the line. -/
def dropSpace (inComment : Bool) : List Char → List Char
  | [] => []
  | c :: rest =>
    if inComment then dropSpace (c != '\n') rest
    else if isBlank c then dropSpace false rest
    else if c == '#' then dropSpace true rest
    else c :: rest

/-- Drops what stands between the signs of a pattern. -/
def skip (flags : Flags) (cs : List Char) : List Char :=
  if flags.spaced then dropSpace false cs else cs

/-- The next sign of a pattern inside brackets. Here only the first of several comment marks is
dropped, and the text of a comment is not. -/
def next? (flags : Flags) (cs : List Char) : Option Char :=
  if flags.spaced then
    match cs.dropWhile isBlank with
    | '#' :: rest => (rest.dropWhile isBlank).head?
    | rest => rest.head?
  else cs.head?

/-- Whether a set may be written. Cases are known of ASCII letters only, and without classes beyond
ASCII a set has to stay in it. -/
def allows (flags : Flags) (set : CharSet) : Bool :=
  if flags.wide then !flags.bothCases else set.isAscii

/-- A set with both cases of its letters if the flags ask for it. -/
def fold (flags : Flags) (set : CharSet) : CharSet :=
  if flags.bothCases then set.foldCase else set

end Flags

end ConsoleMemory.Text.Pattern
