import ConsoleMemory.Text.Hex

/-!
# Strings in TOML

TOML has four string forms: basic and literal, each on one line or over several. This module reads
the text after an opening quote up to the closing one (`readBasic`, `readLiteral`, `readMultiBasic`,
`readMultiLiteral`) and writes a string in the plainest form that can hold it (`write`).
-/

namespace ConsoleMemory.Toml.Quoted

/-- Control characters that no string holds unescaped: all but the tab, so line breaks too. -/
def isControl (c : Char) : Bool := (c.toNat < 0x20 && c != '\t') || c.toNat == 0x7F

/-- The character for a one-letter escape. -/
def simpleEscape? : Char → Option Char
  | 'b' => some '\x08'
  | 't' => some '\t'
  | 'n' => some '\n'
  | 'f' => some '\x0C'
  | 'r' => some '\r'
  | 'e' => some '\x1b'
  | '"' => some '"'
  | '\\' => some '\\'
  | _ => none

/-- The number that hexadecimal digits stand for. -/
def hexNumber? (cs : List Char) : Option Nat :=
  cs.foldlM (fun n c => (Text.Hex.digitValue? c).map (16 * n + ·)) 0

/-- The character with a code given in hexadecimal; surrogates and numbers past the last code point
stand for none. -/
def codeEscape? (cs : List Char) : Option Char :=
  match hexNumber? cs with
  | none => none
  | some n => if n.isValidChar then some (Char.ofNat n) else none

/-- Puts a character, if there is one, in front of a text read so far. -/
def push (c : Option Char) (read : Option (List Char × List Char)) :
    Option (List Char × List Char) :=
  match c, read with
  | some c, some (text, rest) => some (c :: text, rest)
  | _, _ => none

/-- Reads a basic string after its opening quote: its text and what follows the closing quote. -/
def readBasic : List Char → Option (List Char × List Char)
  | [] => none
  | '"' :: rest => some ([], rest)
  | '\\' :: 'x' :: a :: b :: rest => push (codeEscape? [a, b]) (readBasic rest)
  | '\\' :: 'u' :: a :: b :: c :: d :: rest => push (codeEscape? [a, b, c, d]) (readBasic rest)
  | '\\' :: 'U' :: a :: b :: c :: d :: e :: f :: g :: h :: rest =>
    push (codeEscape? [a, b, c, d, e, f, g, h]) (readBasic rest)
  | '\\' :: c :: rest => push (simpleEscape? c) (readBasic rest)
  | c :: rest => if isControl c || c == '\\' then none else push (some c) (readBasic rest)

/-- Reads a literal string after its opening quote. Nothing in it is an escape. -/
def readLiteral : List Char → Option (List Char × List Char)
  | [] => none
  | '\x27' :: rest => some ([], rest)
  | c :: rest => if isControl c then none else push (some c) (readLiteral rest)

/-- Where the reader of a multi-line basic string is: in text, after a backslash that ends its line,
or in the blanks that such a backslash swallows. -/
inductive LineMode where
  | text
  | lineEnd
  | swallow
  deriving DecidableEq, Repr

/-- Reads a multi-line basic string after its opening quotes. One or two quotes may stand before the
closing three. A backslash at the end of a line swallows all blanks and line breaks that follow. -/
def readMultiBasic : LineMode → List Char → Option (List Char × List Char)
  | _, [] => none
  | .lineEnd, c :: rest =>
    if c == ' ' || c == '\t' then readMultiBasic .lineEnd rest
    else if c == '\n' then readMultiBasic .swallow rest
    else if c == '\r' && rest.head? == some '\n' then readMultiBasic .lineEnd rest
    else none
  | .swallow, ' ' :: rest => readMultiBasic .swallow rest
  | .swallow, '\t' :: rest => readMultiBasic .swallow rest
  | .swallow, '\n' :: rest => readMultiBasic .swallow rest
  | .swallow, '\r' :: '\n' :: rest => readMultiBasic .swallow rest
  | _, '"' :: '"' :: '"' :: '"' :: '"' :: rest => some (['"', '"'], rest)
  | _, '"' :: '"' :: '"' :: '"' :: rest => some (['"'], rest)
  | _, '"' :: '"' :: '"' :: rest => some ([], rest)
  | _, '\\' :: 'x' :: a :: b :: rest => push (codeEscape? [a, b]) (readMultiBasic .text rest)
  | _, '\\' :: 'u' :: a :: b :: c :: d :: rest =>
    push (codeEscape? [a, b, c, d]) (readMultiBasic .text rest)
  | _, '\\' :: 'U' :: a :: b :: c :: d :: e :: f :: g :: h :: rest =>
    push (codeEscape? [a, b, c, d, e, f, g, h]) (readMultiBasic .text rest)
  | _, '\\' :: c :: rest =>
    if c == ' ' || c == '\t' then readMultiBasic .lineEnd rest
    else if c == '\n' then readMultiBasic .swallow rest
    else if c == '\r' then
      if rest.head? == some '\n' then readMultiBasic .lineEnd rest else none
    else push (simpleEscape? c) (readMultiBasic .text rest)
  | _, '\r' :: '\n' :: rest => push (some '\r') (push (some '\n') (readMultiBasic .text rest))
  | _, '\n' :: rest => push (some '\n') (readMultiBasic .text rest)
  | _, c :: rest =>
    if isControl c || c == '\\' then none else push (some c) (readMultiBasic .text rest)

/-- Reads a multi-line literal string after its opening quotes. -/
def readMultiLiteral : List Char → Option (List Char × List Char)
  | [] => none
  | '\x27' :: '\x27' :: '\x27' :: '\x27' :: '\x27' :: rest => some (['\x27', '\x27'], rest)
  | '\x27' :: '\x27' :: '\x27' :: '\x27' :: rest => some (['\x27'], rest)
  | '\x27' :: '\x27' :: '\x27' :: rest => some ([], rest)
  | '\r' :: '\n' :: rest => push (some '\r') (push (some '\n') (readMultiLiteral rest))
  | '\n' :: rest => push (some '\n') (readMultiLiteral rest)
  | c :: rest => if isControl c then none else push (some c) (readMultiLiteral rest)

/-- Drops the line break right after opening quotes. -/
def dropFirstBreak : List Char → List Char
  | '\n' :: rest => rest
  | '\r' :: '\n' :: rest => rest
  | cs => cs

/-- Reads a string of any form from its opening quote on. -/
def read : List Char → Option (List Char × List Char)
  | '"' :: '"' :: '"' :: rest => readMultiBasic .text (dropFirstBreak rest)
  | '"' :: rest => readBasic rest
  | '\x27' :: '\x27' :: '\x27' :: rest => readMultiLiteral (dropFirstBreak rest)
  | '\x27' :: rest => readLiteral rest
  | _ => none

/-- The forms a string can be written in. -/
inductive Form where
  | basic
  | literal
  | multiBasic
  | multiLiteral
  deriving DecidableEq, Repr

/-- Whether a text holds a control character other than tab and line feed. -/
def hasControl (cs : List Char) : Bool := cs.any fun c => isControl c && c != '\n'

/-- The longest run of a character, given the length of the run that ends right before. -/
def longestRunFrom (q : Char) (current : Nat) : List Char → Nat
  | [] => current
  | c :: rest =>
    if c == q then longestRunFrom q (current + 1) rest
    else max current (longestRunFrom q 0 rest)

/-- The longest run of a character in a text. -/
def longestRun (q : Char) (cs : List Char) : Nat := longestRunFrom q 0 cs

/-- The form a text is written in: the first of the basic, literal, multi-line basic and multi-line
literal forms that holds it as it is, else a basic one. -/
def formFor (cs : List Char) : Form :=
  let control := hasControl cs
  let slash := cs.contains '\\'
  let broken := cs.contains '\n'
  let doubles := longestRun '"' cs
  let singles := longestRun '\x27' cs
  if !control && !slash && !broken && doubles == 0 then .basic
  else if !control && !broken && singles == 0 then .literal
  else if !control && !slash && doubles ≤ 2 then .multiBasic
  else if !control && singles ≤ 2 then .multiLiteral
  else if broken then .multiBasic
  else .basic

/-- The escape of a control character without a letter of its own: four hexadecimal digits. -/
def codeEscape (c : Char) : List Char := '\\' :: 'u' :: Text.Hex.paddedDigits 4 c.toNat

/-- A character other than a quote or a line feed inside a basic string. -/
def escapeChar (c : Char) : List Char :=
  if c == '\x08' then ['\\', 'b']
  else if c == '\t' then ['\\', 't']
  else if c == '\x0C' then ['\\', 'f']
  else if c == '\r' then ['\\', 'r']
  else if c == '\\' then ['\\', '\\']
  else if isControl c then codeEscape c
  else [c]

/-- The inside of a basic string on one line. -/
def basicBody : List Char → List Char
  | [] => []
  | c :: rest =>
    let head :=
      if c == '"' then ['\\', '"']
      else if c == '\n' then ['\\', 'n']
      else escapeChar c
    head ++ basicBody rest

/-- The inside of a multi-line basic string, after a run of `quotes` unescaped quotes. Each third
quote of a run is escaped. -/
def multiBasicBody (quotes : Nat) : List Char → List Char
  | [] => []
  | c :: rest =>
    if c == '"' then
      if quotes == 2 then '\\' :: '"' :: multiBasicBody 0 rest
      else '"' :: multiBasicBody (quotes + 1) rest
    else if c == '\n' then '\n' :: multiBasicBody 0 rest
    else escapeChar c ++ multiBasicBody 0 rest

/-- The quotes of a form. -/
def delimiter : Form → List Char
  | .basic => ['"']
  | .literal => ['\x27']
  | .multiBasic => ['"', '"', '"']
  | .multiLiteral => ['\x27', '\x27', '\x27']

/-- The inside of a text in a form. -/
def body : Form → List Char → List Char
  | .basic, cs => basicBody cs
  | .multiBasic, cs => multiBasicBody 0 cs
  | .literal, cs | .multiLiteral, cs => cs

/-- The line feed after the opening quotes: only where the text itself holds one. -/
def opening (cs : List Char) : List Char := if cs.contains '\n' then ['\n'] else []

/-- A text as a TOML string. -/
def write (cs : List Char) : List Char :=
  let form := formFor cs
  delimiter form ++ opening cs ++ body form cs ++ delimiter form

end ConsoleMemory.Toml.Quoted
