import ConsoleMemory.Fault
import ConsoleMemory.Memory.Boot

/-!
# Files

The files a machine is given, as a finite list of places. A place is a list of names counted from
the working directory; it may start with `..` or with `/`, outside of which nothing is known. Paths
are walked name by name: every name but the last must be a directory, a slash at the end and the
name `.` ask for one too, and `..` goes back.
-/

namespace ConsoleMemory

/-- What can be at a place. A file is told by the calls that read it. -/
inductive Node where
  | file (calls : Reader)
  | directory
  | dangling

/-- A file with some bytes. -/
def Node.ofBytes (bytes : ByteArray) : Node := .file (.ofBytes bytes)

/-- A place: names counted from the working directory. -/
abbrev Place := List String

/-- The files of a machine; the first entry for a place counts. -/
structure Files where
  nodes : List (Place × Node) := []

namespace Files

/-- Places outside the working directory that are known to be directories: the directories above it,
the root and the directory for temporary files. -/
def isOutside (place : Place) : Bool :=
  place == ["/"] || place == ["/", "tmp"] || place.all (· == "..")

/-- What is at a place. -/
def node? (files : Files) (place : Place) : Option Node :=
  if isOutside place then some .directory
  else (files.nodes.find? fun entry => entry.1 == place).map (·.2)

/-- Puts something at a place. -/
def put (files : Files) (place : Place) (node : Node) : Files where
  nodes :=
    if files.nodes.any fun entry => entry.1 == place then
      files.nodes.map fun entry => if entry.1 == place then (place, node) else entry
    else files.nodes ++ [(place, node)]

/-- Takes away what is at a place and below it. -/
def remove (files : Files) (place : Place) : Files where
  nodes := files.nodes.filter fun entry => !place.isPrefixOf entry.1

/-- One name further from a place. -/
def enter (files : Files) (place : Place) (name : String) : Except OsFault Place :=
  match files.node? place with
  | some .directory =>
    if name = "" ∨ name = "." then .ok place
    else if name = ".." then
      if place = ["/"] then .ok place
      else if place.all (· == "..") then .ok (place ++ [".."])
      else .ok place.dropLast
    else if 255 < name.utf8ByteSize then .error .nameTooLong
    else .ok (place ++ [name])
  | some (.file _) => .error .notDirectory
  | some .dangling | none => .error .notFound

/-- The names of a path, between slashes. -/
def splitPath (path : String) : List String :=
  (path.toList.splitOn '/').map String.ofList

/-- Where names lead from the start of a path, before the last of them is looked up. -/
def walk (files : Files) (path : String) (names : List String) : Except OsFault Place :=
  let start : Place := if path.toList.head? = some '/' then ["/"] else []
  names.foldlM files.enter start

/-- The names of a path the system takes: not empty, not too long and without a NUL. -/
def namesOf (path : String) : Except OsFault (List String) :=
  if path.toList.contains '\x00' then .error .nulInPath
  else if path.isEmpty then .error .notFound
  else if 4095 < path.utf8ByteSize then .error .nameTooLong
  else .ok (splitPath path)

/-- Where a path leads, before the last name is looked up. An empty path leads nowhere. -/
def resolve (files : Files) (path : String) : Except OsFault Place :=
  match namesOf path with
  | .error cause => .error cause
  | .ok names => files.walk path names

/-- Whether a path names a directory. -/
def isDirectory (files : Files) (path : String) : Bool :=
  match files.resolve path with
  | .ok place =>
    match files.node? place with
    | some .directory => true
    | some (.file _) | some .dangling | none => false
  | .error _ => false

/-- What opening a place for reading gives. -/
def openedAt (files : Files) (place : Place) : Opened :=
  match files.node? place with
  | some (.file calls) => .reader calls
  | some .directory => .reader .ofDirectory
  | some .dangling | none => .refused .notFound

/-- Opens a path for reading. -/
def openPath (files : Files) (path : String) : Opened :=
  match files.resolve path with
  | .ok place => files.openedAt place
  | .error cause => .refused cause

/-- The bytes of the file a path names. -/
def readBytes (files : Files) (path : String) : Except IoFault ByteArray :=
  match files.openPath path with
  | .reader calls => calls.contents
  | .refused cause => .error (.os cause)

/-- The text of the file a path names. -/
def readText (files : Files) (path : String) : Except IoFault String :=
  match files.readBytes path with
  | .error cause => .error cause
  | .ok bytes =>
    match String.fromUTF8? bytes with
    | some text => .ok text
    | none => .error .notUtf8

/-- Whether names end in a slash after a name of their own. Such a path can only be a directory, and
its last name is not looked up to say so. -/
def namesDirectory (names : List String) : Bool :=
  match names.reverse.dropWhile (· == "") with
  | [] => false
  | last :: _ => names.getLast? == some "" && last != "." && last != ".."

/-- The names before the last one that is not empty. -/
def parentNames (names : List String) : List String :=
  ((names.reverse.dropWhile (· == "")).drop 1).reverse

/-- Where a path leads that is to be written. A path that ends in a slash names a directory. -/
def resolveForWriting (files : Files) (path : String) : Except OsFault Place :=
  match namesOf path with
  | .error cause => .error cause
  | .ok names =>
    if namesDirectory names then
      match files.walk path (parentNames names ++ ["."]) with
      | .error cause => .error cause
      | .ok _ => .error .isDirectory
    else files.walk path names

/-- Writes a file, in place of one that is there. A link that leads nowhere gets its target. -/
def write (files : Files) (path : String) (bytes : ByteArray) : Except OsFault Files :=
  match files.resolveForWriting path with
  | .error cause => .error cause
  | .ok place =>
    match files.node? place with
    | some .directory => .error .isDirectory
    | some (.file _) | some .dangling | none => .ok (files.put place (.ofBytes bytes))

/-- The name of a place inside a directory, if it is right there. -/
def childName? (directory place : Place) : Option String :=
  if place.dropLast == directory then place.getLast? else none

/-- The entries of the directory a path names. -/
def list (files : Files) (path : String) : Except OsFault Listing :=
  match files.resolve path with
  | .error cause => .error cause
  | .ok place =>
    match files.node? place with
    | some .directory =>
      .ok (files.nodes.filterMap fun entry =>
        (childName? place entry.1).map fun name => (name, files.openedAt entry.1))
    | some (.file _) => .error .notDirectory
    | some .dangling | none => .error .notFound

end Files

end ConsoleMemory
