import ConsoleMemory.Toml.Line

/-!
# Tables of a TOML document

The lines of a document make one table of tables. How a table came to be decides what may still be
added to it: a table with a header and an inline table are closed to dotted keys, a table made by
dotted keys is closed to headers, and a table that was only passed on the way to another may get its
own header once.
-/

namespace ConsoleMemory.Toml

/-- How a table came to be. -/
inductive Origin where
  | header
  | passed
  | dotted
  | inline
  deriving DecidableEq, Repr

/-- A value of a document. The elements of a table array are tables with headers. -/
inductive Node where
  | string (text : List Char)
  | scalar (value : Scalar)
  | array (items : List Node)
  | table (origin : Origin) (entries : List (List Char × Node))
  | tables (elements : List (List (List Char × Node)))

/-- The entries of a table, in order. -/
abbrev Entries := List (List Char × Node)

namespace Entries

/-- The value of a key. -/
def get? (es : Entries) (key : List Char) : Option Node :=
  (es.find? fun entry => entry.1 == key).map (·.2)

/-- Gives an existing key a new value in its place. -/
def replace (es : Entries) (key : List Char) (node : Node) : Entries :=
  es.map fun entry => if entry.1 == key then (key, node) else entry

/-- Adds a key that is not there yet. -/
def add? (es : Entries) (key : List Char) (node : Node) : Option Entries :=
  match es.get? key with
  | none => some (es ++ [(key, node)])
  | some _ => none

/-- Changes the last table of a list. -/
def modifyLast (change : Entries → Option Entries) (elements : List Entries) :
    Option (List Entries) :=
  match elements.getLast? with
  | none => none
  | some last => (change last).map fun changed => elements.dropLast ++ [changed]

/-- Adds a value under a dotted key. The tables on the way are made as needed; the last of them must
have been made by a dotted key, and none may be closed. -/
def insertDotted : KeyPath → Node → Entries → Option Entries
  | [], _, _ => none
  | [key], node, es => es.add? key node
  | key :: next :: more, node, es =>
    match es.get? key with
    | none =>
      (insertDotted (next :: more) node []).map fun sub => es ++ [(key, .table .dotted sub)]
    | some (.table origin sub) =>
      if origin = .header ∨ origin = .inline ∨ (origin = .passed ∧ more = []) then none
      else
        (insertDotted (next :: more) node sub).map fun sub => es.replace key (.table origin sub)
    | some (.tables elements) =>
      if more = [] then none
      else
        (modifyLast (insertDotted (next :: more) node) elements).map fun elements =>
          es.replace key (.tables elements)
    | some _ => none

/-- Changes the table a header's names lead to. The tables on the way are made as needed; a table
array leads to its last element. -/
def descend (change : Entries → Option Entries) : KeyPath → Entries → Option Entries
  | [], es => change es
  | key :: rest, es =>
    match es.get? key with
    | none => (descend change rest []).map fun sub => es ++ [(key, .table .passed sub)]
    | some (.table origin sub) =>
      if origin = .inline then none
      else (descend change rest sub).map fun sub => es.replace key (.table origin sub)
    | some (.tables elements) =>
      (modifyLast (descend change rest) elements).map fun elements =>
        es.replace key (.tables elements)
    | some _ => none

/-- Gives a key a table with a header, new or passed before. -/
def openTable (key : List Char) (es : Entries) : Option Entries :=
  match es.get? key with
  | none => some (es ++ [(key, .table .header [])])
  | some (.table .passed sub) => some (es.replace key (.table .header sub))
  | some _ => none

/-- Adds an element to the table array of a key. -/
def openElement (key : List Char) (es : Entries) : Option Entries :=
  match es.get? key with
  | none => some (es ++ [(key, .tables [[]])])
  | some (.tables elements) => some (es.replace key (.tables (elements ++ [[]])))
  | some _ => none

end Entries

mutual

/-- A value as written, as a value of the document. -/
def Node.ofExpr : Expr → Option Node
  | .string text => some (.string text)
  | .scalar value => some (.scalar value)
  | .array items => (Node.ofExprs items).map .array
  | .inlineTable pairs => (Entries.ofPairs pairs []).map (.table .inline)

/-- The items of an array. -/
def Node.ofExprs : List Expr → Option (List Node)
  | [] => some []
  | item :: rest =>
    match Node.ofExpr item, Node.ofExprs rest with
    | some node, some nodes => some (node :: nodes)
    | _, _ => none

/-- The pairs of an inline table, added to entries. -/
def Entries.ofPairs : List (KeyPath × Expr) → Entries → Option Entries
  | [], es => some es
  | (key, value) :: rest, es =>
    match Node.ofExpr value with
    | none => none
    | some node =>
      match Entries.insertDotted key node es with
      | none => none
      | some es => Entries.ofPairs rest es

end

namespace Entries

/-- Adds one line to the document; `under` is the key of the header it stands under. The result is
the document and the header for the next line. -/
def addLine (es : Entries) (under : KeyPath) : Line → Option (Entries × KeyPath)
  | .pair key value =>
    match Node.ofExpr value with
    | none => none
    | some node => (es.descend (insertDotted key node) under).map fun es => (es, under)
  | .header key =>
    match key.getLast? with
    | none => none
    | some name => (es.descend (openTable name) key.dropLast).map fun es => (es, key)
  | .arrayHeader key =>
    match key.getLast? with
    | none => none
    | some name => (es.descend (openElement name) key.dropLast).map fun es => (es, key)

/-- Adds lines in order. -/
def addLines (es : Entries) (under : KeyPath) : List Line → Option Entries
  | [] => some es
  | line :: rest =>
    match es.addLine under line with
    | none => none
    | some (es, under) => addLines es under rest

/-- The table a document stands for. -/
def ofLines (lines : List Line) : Option Entries := addLines [] [] lines

/-- Reads a document. -/
def read (cs : List Char) : Option Entries :=
  match readLines cs with
  | none => none
  | some lines => ofLines lines

end Entries

end ConsoleMemory.Toml
