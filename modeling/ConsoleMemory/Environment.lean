import ConsoleMemory.Files
import ConsoleMemory.Text.Alphanumeric
import ConsoleMemory.Text.Blank

/-!
# Environment variables and their file

Variables come from the process and from a file `.env` of lines `KEY=value`. A value may be quoted,
strongly by single quotes or weakly by double ones, may go on over lines inside quotes, and may name
earlier variables by `$`. A variable that is set keeps its value. A line that cannot be read ends
the reading; the lines before it count. The file is the first of its name in the working directory
and the directories above it.
-/

namespace ConsoleMemory

/-- Variables with their values; the first entry for a name counts. -/
abbrev Variables := List (String × String)

namespace Variables

/-- What follows a name and an equals sign at the front of a text. -/
def valueAfter? : (name text : List Char) → Option (List Char)
  | [], '=' :: value => some value
  | a :: name, b :: text => if a == b then valueAfter? name text else none
  | _, _ => none

/-- The value of a variable. Names are looked up in the texts `name=value`, so a name with an equals
sign finds the rest of a value. -/
def get? (vars : Variables) (name : String) : Option String :=
  if name.isEmpty then none
  else
    vars.findSome? fun entry =>
      (valueAfter? name.toList (entry.1.toList ++ '=' :: entry.2.toList)).map String.ofList

/-- Sets a variable that is not set yet. A value cannot hold a NUL. -/
def define? (vars : Variables) (name value : String) : Option Variables :=
  match vars.get? name with
  | some _ => some vars
  | none => if value.toList.contains '\x00' then none else some (vars ++ [(name, value)])

/-- The value of an entry is found by the name of the entry alone, if neither name has an equals
sign. -/
theorem valueAfter?_append {name key : List Char} (value : List Char) (hname : '=' ∉ name)
    (hkey : '=' ∉ key) :
    valueAfter? name (key ++ '=' :: value) = if name = key then some value else none := by
  induction name generalizing key with
  | nil =>
    cases key with
    | nil => rfl
    | cons b key =>
      have hb : b ≠ '=' := fun h => hkey (h ▸ List.mem_cons_self)
      simp [valueAfter?, hb]
  | cons a name ih =>
    have ha : a ≠ '=' := fun h => hname (h ▸ List.mem_cons_self)
    have hrest : '=' ∉ name := fun h => hname (List.mem_cons_of_mem a h)
    cases key with
    | nil => simp [valueAfter?, ha]
    | cons b key =>
      have hkey : '=' ∉ key := fun h => hkey (List.mem_cons_of_mem b h)
      by_cases hab : a = b
      · simp [valueAfter?, hab, ih hrest hkey]
      · simp [valueAfter?, hab]

end Variables

namespace EnvironmentFile

/-- Where the reader of a line is with respect to quotes and escapes. A comment may start after a
blank. -/
inductive QuoteState where
  | plain
  | escape
  | strong
  | strongEscape
  | weak
  | weakEscape
  | blank
  deriving DecidableEq, Repr

/-- The state after a character. -/
def QuoteState.next : QuoteState → Char → QuoteState
  | .escape, _ => .plain
  | .weakEscape, _ => .weak
  | .strongEscape, _ => .strong
  | .weak, c => if c == '\\' then .weakEscape else if c == '"' then .plain else .weak
  | .strong, c => if c == '\\' then .strongEscape else if c == '\x27' then .plain else .strong
  | state, c =>
    if c == '\\' then .escape
    else if c == '"' then .weak
    else if c == '\x27' then .strong
    else if state == .plain && Text.isBlank c && c != '\n' && c != '\r' then .blank
    else .plain

/-- Reads a line from a state: the state at its end, or the text before a comment. -/
def scan : QuoteState → List Char → QuoteState ⊕ List Char
  | state, [] => .inl state
  | state, c :: rest =>
    if state == .blank && c == '#' then .inr []
    else
      match scan (state.next c) rest with
      | .inl last => .inl last
      | .inr kept => .inr (c :: kept)

/-- A line without its line break. -/
def dropBreak (cs : List Char) : List Char :=
  match cs.reverse with
  | '\n' :: '\r' :: rest => rest.reverse
  | '\n' :: rest => rest.reverse
  | _ => cs

/-- Joins lines while a quote is open and cuts comments off. What is started is kept last character
first. `none` stands for text that no line can be made of. -/
def joinLines (started : List Char) (state : QuoteState) :
    List (Option (List Char)) → List (Option (List Char))
  | [] => if state == .plain then [] else [none]
  | none :: _ => [none]
  | some line :: rest =>
    if started.isEmpty && (Text.trimStart line).head? == some '#' then
      some [] :: joinLines [] .plain rest
    else
      match scan state line with
      | .inr kept => some (started.reverseAux kept) :: joinLines [] .plain rest
      | .inl .plain => some (dropBreak (started.reverseAux line)) :: joinLines [] .plain rest
      | .inl unfinished => joinLines (line.reverseAux started) unfinished rest

/-- Whether a name after `$` is read, and how: a bare name goes as far as letters and digits do, a
name in braces to the closing one. -/
inductive Naming where
  | off
  | bare
  | braced
  deriving DecidableEq, Repr

/-- The reader of a value. The name and the output are kept last character first. -/
structure ValueState where
  strong : Bool := false
  weak : Bool := false
  escaped : Bool := false
  ended : Bool := false
  naming : Naming := .off
  name : List Char := []
  output : List Char := []

namespace ValueState

/-- Appends a character. -/
def emit (st : ValueState) (c : Char) : ValueState := { st with output := c :: st.output }

/-- Appends the value of the variable named so far; nothing if it is not set. -/
def substitute (st : ValueState) (vars : Variables) : ValueState :=
  let value := (vars.get? (String.ofList st.name.reverse)).getD ""
  { st with name := [], output := value.toList.reverse ++ st.output }

/-- The character that a backslash and a character stand for. -/
def unescape? (c : Char) : Option Char :=
  if c == 'n' then some '\n'
  else if c == '\\' || c == '\x27' || c == '"' || c == '$' || c == ' ' then some c
  else none

/-- A character while a variable is named. -/
def name? (st : ValueState) (vars : Variables) (c : Char) : ValueState :=
  if Text.isAlphanumeric c then { st with name := c :: st.name }
  else
    match st.naming with
    | .braced =>
      if c == '\x7d' then { st.substitute vars with naming := .off }
      else { st with name := c :: st.name }
    | _ =>
      if c == '\x7b' && st.name.isEmpty then { st with naming := .braced }
      else
        let st := st.substitute vars
        if c == '$' then { st with naming := .bare } else { st.emit c with naming := .off }

/-- One more character; nothing if it cannot stand there. -/
def next? (st : ValueState) (vars : Variables) (c : Char) : Option ValueState :=
  if st.ended then if c == ' ' || c == '\t' then some st else none
  else if st.escaped then (unescape? c).map fun c => { st.emit c with escaped := false }
  else if st.strong then some (if c == '\x27' then { st with strong := false } else st.emit c)
  else if st.naming ≠ .off then some (st.name? vars c)
  else if c == '$' then some { st with naming := .bare }
  else if c == '\\' then some { st with escaped := true }
  else if st.weak then some (if c == '"' then { st with weak := false } else st.emit c)
  else if c == '\x27' then some { st with strong := true }
  else if c == '"' then some { st with weak := true }
  else if c == ' ' || c == '\t' then some { st with ended := true }
  else some (st.emit c)

end ValueState

/-- The value that was read up to its end. Its quotes and braces are closed. -/
def ValueState.finish? (st : ValueState) (vars : Variables) : Option String :=
  if st.naming = .braced ∨ st.strong ∨ st.weak then none
  else some (String.ofList (st.substitute vars).output.reverse)

/-- Reads a value up to a comment or the end of its line. -/
def readValue (vars : Variables) (st : ValueState) : List Char → Option String
  | [] => st.finish? vars
  | c :: rest =>
    if st.ended && c == '#' then st.finish? vars
    else
      match st.next? vars c with
      | none => none
      | some st => readValue vars st rest

/-- Characters of a key after its first. -/
def isKeyChar (c : Char) : Bool := c.isAlphanum || c == '_' || c == '.'

/-- Reads a key and the white space after it. -/
def readKey (cs : List Char) : Option (List Char × List Char) :=
  match cs with
  | [] => none
  | c :: _ =>
    if c.isAlpha || c == '_' then
      some (cs.takeWhile isKeyChar, Text.trimStart (cs.dropWhile isKeyChar))
    else none

/-- Reads a key up to its equals sign. The word `export` may stand in front of it. -/
def readAssignment (cs : List Char) : Option (List Char × List Char) :=
  match readKey cs with
  | some (key, '=' :: rest) => some (key, Text.trimStart rest)
  | some (key, rest) =>
    if key = "export".toList then
      match readKey rest with
      | some (key, '=' :: rest) => some (key, Text.trimStart rest)
      | _ => none
    else none
  | none => none

/-- What a line says: nothing, a variable with its value, or nothing that can be read. -/
inductive LineResult where
  | blank
  | assignment (name value : String)
  | unreadable
  deriving DecidableEq, Repr

/-- Reads a line. -/
def readLine (vars : Variables) (line : List Char) : LineResult :=
  let cs := Text.trimStart (Text.trimEnd line)
  match cs with
  | [] => .blank
  | '#' :: _ => .blank
  | _ =>
    match readAssignment cs with
    | none => .unreadable
    | some (key, []) => .assignment (String.ofList key) ""
    | some (key, '#' :: _) => .assignment (String.ofList key) ""
    | some (key, value) =>
      match readValue vars {} value with
      | some value => .assignment (String.ofList key) value
      | none => .unreadable

/-- Applies lines in order until one cannot be read. Nothing is left if a variable cannot be set. -/
def applyLines (vars : Variables) : List (Option (List Char)) → Option Variables
  | [] => some vars
  | none :: _ => some vars
  | some line :: rest =>
    match readLine vars line with
    | .blank => applyLines vars rest
    | .assignment name value =>
      match vars.define? name value with
      | none => none
      | some vars => applyLines vars rest
    | .unreadable => some vars

/-- The lines of a file, each with its line break. -/
def splitLines : List UInt8 → List (List UInt8)
  | [] => []
  | b :: rest =>
    if b == 0x0A then [b] :: splitLines rest
    else
      match splitLines rest with
      | [] => [[b]]
      | line :: lines => (b :: line) :: lines

/-- A file without a byte order mark in front. -/
def dropMark : List UInt8 → List UInt8
  | 0xEF :: 0xBB :: 0xBF :: rest => rest
  | bytes => bytes

/-- The texts of the lines of a file. A failure to read counts as a line that cannot be read, in
place of the line it came in. -/
def lineTexts (calls : Reader) : List (Option (List Char)) :=
  let lines := splitLines (dropMark calls.delivered.toList)
  let decode := fun line : List UInt8 => (String.fromUTF8? line.toByteArray).map String.toList
  match calls.fault? with
  | none => lines.map decode
  | some _ => (lines.filter fun line => line.getLast? == some 0x0A).map decode ++ [none]

/-- The variables after a file, if they can all be set. -/
def apply (vars : Variables) (calls : Reader) : Option Variables :=
  applyLines vars (joinLines [] .plain (lineTexts calls))

/-- Where the file `.env` is looked for: in the working directory, the directories above it one
after the other, and the root. -/
def candidates (files : Files) : List Place :=
  let depth := (files.nodes.map fun entry => entry.1.length).foldl max 0
  (List.range depth).map (fun up => List.replicate up ".." ++ [".env"]) ++ [["/", ".env"]]

/-- The first file `.env` there is. What is no file is passed over. -/
def find? (files : Files) : Option Reader :=
  (candidates files).findSome? fun place =>
    match files.node? place with
    | some (.file calls) => some calls
    | some .directory | some .dangling | none => none

/-- The variables after the file `.env`, if there is one and its variables can be set. -/
def load (files : Files) (vars : Variables) : Option Variables :=
  match find? files with
  | some calls => apply vars calls
  | none => some vars

end EnvironmentFile

end ConsoleMemory
