import ConsoleMemory.Image
import ConsoleMemory.Word

/-!
# Values in images

A value is loaded from consecutive bytes of an image and stored to them, in guest order. When all
its bytes lie inside the image they are read or written directly; otherwise an end rule says where
the bytes past the end are: back at the start, or nowhere. An index outside of the image stops the
program, and so does a sum of indices that is no machine word; such an access has no outcome.
-/

namespace ConsoleMemory

/-- What lies past the last byte of an image: its first byte again, or nothing. -/
inductive EndRule where
  | wrap
  | stop
  deriving DecidableEq, Repr

/-- The index after a run. Indices are words of 64 bits. -/
def runEnd? (start count : Nat) : Option Nat :=
  if start + count < 0x10000000000000000 then some (start + count) else none

namespace Image

variable {n : Nat}

/-- The byte at an index that has to be inside. -/
def byteAt? (img : Image n) (i : Nat) : Option UInt8 := img.bytes[i]?

/-- Puts a byte at an index that has to be inside. -/
def putAt? (img : Image n) (i : Nat) (b : UInt8) : Option (Image n) :=
  if i < img.bytes.size then some (img.set i b) else none

/-- The bytes of a run that has to be inside. -/
def window? (img : Image n) (start count : Nat) : Option (List UInt8) :=
  (List.range count).mapM fun k => img.byteAt? (start + k)

/-- Writes a run that has to be inside. -/
def overwrite? (img : Image n) (start : Nat) : List UInt8 → Option (Image n)
  | [] => some img
  | b :: rest => (img.putAt? start b).bind fun next => next.overwrite? (start + 1) rest

/-- The byte at an index by an end rule: a wrapped index has to be inside, any other is looked at
first. -/
def ruledAt? (img : Image n) (rule : EndRule) (i : Nat) : Option UInt8 :=
  match rule with
  | .wrap => img.byteAt? (i % n)
  | .stop => some (img.get i)

/-- Puts a byte at an index by an end rule. -/
def ruledPut? (img : Image n) (rule : EndRule) (i : Nat) (b : UInt8) : Option (Image n) :=
  match rule with
  | .wrap => img.putAt? (i % n) b
  | .stop => some (img.set i b)

/-- The bytes of a run by an end rule. -/
def gather? (img : Image n) (rule : EndRule) (start count : Nat) : Option (List UInt8) :=
  (List.range count).mapM fun k => img.ruledAt? rule (start + k)

/-- Writes a run by an end rule. -/
def scatter? (img : Image n) (rule : EndRule) (start : Nat) : List UInt8 → Option (Image n)
  | [] => some img
  | b :: rest => (img.ruledPut? rule start b).bind fun next => next.scatter? rule (start + 1) rest

/-- Loads a value in guest order. -/
def load? (img : Image n) (rule : EndRule) (w : Width) (start : Nat) : Option (Value w) := do
  let stop ← runEnd? start w.bytes
  let bytes ←
    if stop ≤ n then img.window? start w.bytes else img.gather? rule start w.bytes
  return Value.ofBytes guestOrder w bytes

/-- Stores a value in guest order. -/
def store? {w : Width} (img : Image n) (rule : EndRule) (start : Nat) (v : Value w) :
    Option (Image n) := do
  let stop ← runEnd? start w.bytes
  if stop ≤ n then img.overwrite? start (v.toBytes guestOrder)
  else img.scatter? rule start (v.toBytes guestOrder)

/-- The value that a load gives. -/
def load (img : Image n) (rule : EndRule) (w : Width) (start : Nat) : Value w :=
  (img.load? rule w start).getD 0

/-- The image that a store leaves. -/
def store {w : Width} (img : Image n) (rule : EndRule) (start : Nat) (v : Value w) : Image n :=
  (img.store? rule start v).getD img

end Image

end ConsoleMemory
