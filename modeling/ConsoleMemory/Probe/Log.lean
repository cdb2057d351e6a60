import ConsoleMemory.Environment
import ConsoleMemory.Text.ControlSequence
import ConsoleMemory.Text.Pattern.Reader

/-!
# The log of the probe

Messages of the probe go to a log. A variable says which of them are shown: it holds directives,
divided by commas, and after a slash a pattern that messages must match. A directive names targets
and a level, `target=level`; a level alone is for all targets and a target alone for all levels. A
shown message is plain text, its further lines set in.
-/

namespace ConsoleMemory.Probe

/-- Whether messages of the targets whose names start in a way are left out. No start stands for all
targets. -/
structure LogDirective where
  start : Option (List Char)
  silent : Bool

namespace LogDirective

/-- The level names, and whether a level leaves errors out. -/
def levels : List (String × Bool) :=
  [("off", true), ("error", false), ("warn", false), ("info", false), ("debug", false),
    ("trace", false)]

/-- Whether the level of a name leaves errors out. Case does not matter. -/
def silent? (name : List Char) : Option Bool :=
  (levels.find? fun level => level.1 == Text.asciiLower (String.ofList name)).map (·.2)

/-- Reads a directive. -/
def read? (text : List Char) : Option LogDirective :=
  match text.splitOn '=' with
  | [name] =>
    match silent? name with
    | some silent => some ⟨none, silent⟩
    | none => some ⟨some name, false⟩
  | [name, level] =>
    let level := Text.trim level
    if level.isEmpty then some ⟨some name, false⟩
    else (silent? level).map fun silent => ⟨some name, silent⟩
  | _ => none

/-- Whether a directive is for a target. -/
def covers (d : LogDirective) (target : List Char) : Bool :=
  match d.start with
  | none => true
  | some start => start.isPrefixOf target

/-- How close a directive comes to the targets it is for. -/
def closeness (d : LogDirective) : Nat :=
  match d.start with
  | none => 0
  | some start => (String.ofList start).utf8ByteSize

/-- Adds a directive, in place of one for the same start. -/
def insert (directives : List LogDirective) (d : LogDirective) : List LogDirective :=
  if directives.any fun other => other.start == d.start then
    directives.map fun other => if other.start == d.start then d else other
  else directives ++ [d]

end LogDirective

/-- Which messages are shown. -/
structure LogFilter where
  directives : List LogDirective := []
  pattern : Option Text.Pattern := none

namespace LogFilter

/-- The variable that holds a filter. -/
def variableName : String := "RUST_LOG"

/-- Reads a filter. Directives that are not understood are skipped, and so is such a pattern; text
with more than one slash says nothing. -/
def read (text : List Char) : LogFilter :=
  match text.splitOn '/' with
  | directives :: rest =>
    if 1 < rest.length then {}
    else
      let parts := ((directives.splitOn ',').map Text.trim).filter fun part => !part.isEmpty
      { directives := (parts.filterMap LogDirective.read?).foldl LogDirective.insert []
        pattern := rest.head?.bind Text.Pattern.read? }
  | [] => {}

/-- The filter of a run: what the variable says, and everything for the targets it does not name. -/
def ofVariables (vars : Variables) : LogFilter :=
  let filter := (vars.get? variableName).elim {} fun text => read text.toList
  { filter with directives := LogDirective.insert filter.directives ⟨none, false⟩ }

/-- The directive that decides on a target: of those for it the closest, of equally close ones the
last. -/
def deciding (filter : LogFilter) (target : List Char) : LogDirective :=
  (filter.directives.filter (·.covers target)).foldl
    (fun best d => if d.closeness < best.closeness then best else d) ⟨none, false⟩

/-- Whether an error message of a target is shown. -/
def shows (filter : LogFilter) (target message : List Char) : Bool :=
  !(filter.deciding target).silent && filter.pattern.all (·.search message)

end LogFilter

/-- A message with its further lines set in. -/
def indented (message : List Char) : List Char :=
  message.flatMap fun c => if c == '\n' then "\n    ".toList else [c]

/-- What the log shows of an error message of the probe, if anything. -/
def logged (vars : Variables) (message : String) : Option String :=
  if (LogFilter.ofVariables vars).shows "psxmem_probe".toList message.toList then
    some (String.ofList (Text.ControlSequence.plain (indented message.toList)))
  else none

end ConsoleMemory.Probe
