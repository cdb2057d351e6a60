import ConsoleMemory.Fault
import ConsoleMemory.Image

/-!
# Reading files

An open file is read by one call after another. A call gives the next bytes, fewer than it has room
for if it likes; or it is interrupted, and may be made again; or it fails. A call that gives no bytes
tells that the file is at its end.
-/

namespace ConsoleMemory

/-- What a call gives that reads from a file. -/
inductive ReadResult where
  | bytes (chunk : ByteArray)
  | interrupted
  | failed (cause : IoFault)

/-- An open file: what calls with room enough give, in order. After the last the file is at its end.
-/
abbrev Reader := List ReadResult

namespace Reader

/-- A file that gives all of its bytes at once. -/
def ofBytes (bytes : ByteArray) : Reader := [.bytes bytes]

/-- A directory opens as a file does, but cannot be read. -/
def ofDirectory : Reader := [.failed (.os .isDirectory)]

/-- The bytes that calls give until the file is at its end or one of them fails. -/
def delivered : Reader → ByteArray
  | [] => .empty
  | .bytes chunk :: rest => if chunk.size = 0 then .empty else chunk ++ delivered rest
  | .interrupted :: rest => delivered rest
  | .failed _ :: _ => .empty

/-- Why a call fails before the file is at its end, if one does. -/
def fault? : Reader → Option IoFault
  | [] => none
  | .bytes chunk :: rest => if chunk.size = 0 then none else fault? rest
  | .interrupted :: rest => fault? rest
  | .failed cause :: _ => some cause

/-- All bytes of a file, if no call fails. -/
def contents (reader : Reader) : Except IoFault ByteArray :=
  match reader.fault? with
  | some cause => .error cause
  | none => .ok reader.delivered

end Reader

/-- Fills an image from a position on until it is full or the file is at its end, and tells how far.
What was read before a call failed stays in the image. -/
def Image.readUpTo {n : Nat} (img : Image n) (filled : Nat) : Reader → Except IoFault Nat × Image n
  | [] => (.ok filled, img)
  | result :: rest =>
    if n ≤ filled then (.ok filled, img)
    else
      match result with
      | .bytes chunk =>
        let taken := chunk.extract 0 (n - filled)
        if taken.size = 0 then (.ok filled, img)
        else (img.patch filled taken).readUpTo (filled + taken.size) rest
      | .interrupted => img.readUpTo filled rest
      | .failed cause => (.error cause, img)

end ConsoleMemory
