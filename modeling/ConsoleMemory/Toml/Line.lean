import ConsoleMemory.Toml.Quoted
import ConsoleMemory.Toml.Scalar

/-!
# Lines of a TOML document

A document is a list of lines: pairs of a dotted key and a value, and headers of tables and of table
arrays. Inside arrays and inline tables blanks, line breaks and comments may stand anywhere but
inside a key, and a comma may follow the last item. Reading takes the whole text or nothing; arrays
and inline tables nest at most `depthLimit` deep, and a key has at most `nameLimit` names.
-/

namespace ConsoleMemory.Toml

/-- A value as written. -/
inductive Expr where
  | string (text : List Char)
  | scalar (value : Scalar)
  | array (items : List Expr)
  | inlineTable (pairs : List (List (List Char) × Expr))

/-- A key as written: the names between its dots. -/
abbrev KeyPath := List (List Char)

/-- A line that is not blank. -/
inductive Line where
  | pair (key : KeyPath) (value : Expr)
  | header (key : KeyPath)
  | arrayHeader (key : KeyPath)

/-- How deep arrays and inline tables may nest. -/
def depthLimit : Nat := 80

/-- How many names a key may have. -/
def nameLimit : Nat := 80

/-- Blanks inside a line. -/
def isGap (c : Char) : Bool := c == ' ' || c == '\t'

/-- Drops blanks inside a line. -/
def skipGap (cs : List Char) : List Char := cs.dropWhile isGap

/-- Drops a comment's text; what follows starts with its line break. Control characters are not
allowed in it, and a carriage return only before a line feed. -/
def skipComment : List Char → Option (List Char)
  | [] => some []
  | '\n' :: rest => some ('\n' :: rest)
  | '\r' :: '\n' :: rest => some ('\r' :: '\n' :: rest)
  | c :: rest => if Quoted.isControl c then none else skipComment rest

/-- Drops blanks, line breaks and comments. -/
def skipBlank : (inComment : Bool) → List Char → Option (List Char)
  | _, [] => some []
  | _, '\n' :: rest => skipBlank false rest
  | _, '\r' :: '\n' :: rest => skipBlank false rest
  | true, c :: rest => if Quoted.isControl c then none else skipBlank true rest
  | false, c :: rest =>
    if isGap c then skipBlank false rest
    else if c == '#' then skipBlank true rest
    else some (c :: rest)

/-- What follows the end of a line: blanks, an optional comment, and a line break or the end. -/
def endLine (cs : List Char) : Option (List Char) :=
  let stop : Option (List Char) :=
    match skipGap cs with
    | '#' :: rest => skipComment rest
    | rest => some rest
  match stop with
  | some [] => some []
  | some ('\n' :: rest) => some rest
  | some ('\r' :: '\n' :: rest) => some rest
  | _ => none

/-- Characters of a key without quotes. -/
def isBareKey (c : Char) : Bool := c.isAlphanum || c == '_' || c == '-'

/-- Reads one name of a key. -/
def readName (cs : List Char) : Option (List Char × List Char) :=
  match cs with
  | '"' :: rest => Quoted.readBasic rest
  | '\x27' :: rest => Quoted.readLiteral rest
  | _ =>
    let name := cs.takeWhile isBareKey
    if name.isEmpty then none else some (name, cs.dropWhile isBareKey)

/-- Reads the names of a dotted key, at most so many. -/
def readNames : (limit : Nat) → List Char → Option (KeyPath × List Char)
  | 0, _ => none
  | limit + 1, cs =>
    match readName cs with
    | none => none
    | some (name, rest) =>
      match skipGap rest with
      | '.' :: rest =>
        match readNames limit (skipGap rest) with
        | some (names, rest) => some (name :: names, rest)
        | none => none
      | rest => some ([name], rest)

/-- Reads a dotted key and the blanks after it. -/
def readKey (cs : List Char) : Option (KeyPath × List Char) := readNames nameLimit cs

/-- Reads a key, an equals sign and a value on one line. -/
def readPair (readValue : List Char → Option (Expr × List Char)) (cs : List Char) :
    Option ((KeyPath × Expr) × List Char) :=
  match readKey cs with
  | some (key, '=' :: rest) =>
    match readValue (skipGap rest) with
    | some (value, rest) => some ((key, value), rest)
    | none => none
  | _ => none

/-- Reads a pair of an inline table, where lines may break around the equals sign. -/
def readInnerPair (readValue : List Char → Option (Expr × List Char)) (cs : List Char) :
    Option ((KeyPath × Expr) × List Char) :=
  match readKey cs with
  | none => none
  | some (key, rest) =>
    match skipBlank false rest with
    | some ('=' :: rest) =>
      match skipBlank false rest with
      | none => none
      | some rest =>
        match readValue rest with
        | some (value, rest) => some ((key, value), rest)
        | none => none
    | _ => none

/-- Reads items up to a closing bracket, with commas between them; a comma may follow the last. The
fuel bounds their number. -/
def readItems {α : Type} (close : Char) (readItem : List Char → Option (α × List Char)) :
    (fuel : Nat) → List Char → Option (List α × List Char)
  | 0, _ => none
  | fuel + 1, cs =>
    match skipBlank false cs with
    | none => none
    | some [] => none
    | some (c :: rest) =>
      if c == close then some ([], rest)
      else
        match readItem (c :: rest) with
        | none => none
        | some (item, rest) =>
          match skipBlank false rest with
          | none => none
          | some [] => none
          | some (c :: rest) =>
            if c == close then some ([item], rest)
            else if c == ',' then
              match readItems close readItem fuel rest with
              | some (items, rest) => some (item :: items, rest)
              | none => none
            else none

/-- Reads a string or a bare value. -/
def readAtom (cs : List Char) : Option (Expr × List Char) :=
  match cs with
  | '"' :: _ | '\x27' :: _ =>
    match Quoted.read cs with
    | some (text, rest) => some (.string text, rest)
    | none => none
  | _ =>
    match Scalar.read cs with
    | some (value, rest) => some (.scalar value, rest)
    | none => none

/-- Reads a value whose arrays and inline tables nest at most `depth` deep. -/
def readExpr : (depth : Nat) → List Char → Option (Expr × List Char)
  | 0, cs => readAtom cs
  | depth + 1, '[' :: rest =>
    match readItems ']' (readExpr depth) (rest.length + 1) rest with
    | some (items, rest) => some (.array items, rest)
    | none => none
  | depth + 1, '\x7b' :: rest =>
    match readItems '\x7d' (readInnerPair (readExpr depth)) (rest.length + 1) rest with
    | some (pairs, rest) => some (.inlineTable pairs, rest)
    | none => none
  | _ + 1, cs => readAtom cs

/-- Reads the line at the front of a text that starts with neither a blank nor a comment. -/
def readLine (cs : List Char) : Option (Line × List Char) :=
  match cs with
  | '[' :: '[' :: rest =>
    match readKey (skipGap rest) with
    | some (key, ']' :: ']' :: rest) => (endLine rest).map fun rest => (.arrayHeader key, rest)
    | _ => none
  | '[' :: rest =>
    match readKey (skipGap rest) with
    | some (key, ']' :: rest) => (endLine rest).map fun rest => (.header key, rest)
    | _ => none
  | _ =>
    match readPair (readExpr depthLimit) cs with
    | some ((key, value), rest) => (endLine rest).map fun rest => (.pair key value, rest)
    | none => none

/-- Reads lines; the fuel bounds their number. -/
def readLinesUpTo : (fuel : Nat) → List Char → Option (List Line)
  | 0, _ => none
  | fuel + 1, cs =>
    match skipBlank false cs with
    | none => none
    | some [] => some []
    | some cs =>
      match readLine cs with
      | none => none
      | some (line, rest) => (readLinesUpTo fuel rest).map (line :: ·)

/-- Reads a whole document. A byte order mark may stand in front. -/
def readLines (cs : List Char) : Option (List Line) :=
  let text :=
    match cs with
    | '\ufeff' :: rest => rest
    | _ => cs
  readLinesUpTo (text.length + 1) text

end ConsoleMemory.Toml
