import ConsoleMemory.Address
import ConsoleMemory.Text.Blank
import ConsoleMemory.Text.Hex

/-!
# Addresses as text

An address is written in hexadecimal, in either case, with white space around it, an optional `0x`
or `0X` in front, an optional plus sign after that, and underscores anywhere after the `0x`. Leading
zeros are free; the number must fit 32 bits.
-/

namespace ConsoleMemory.Text

/-- Why a text is no address. -/
inductive AddressFault where
  | empty
  | invalidDigit
  | overflow
  deriving DecidableEq, Repr

namespace AddressFault

/-- The reason in words. -/
def message : AddressFault → String
  | empty => "cannot parse integer from empty string"
  | invalidDigit => "invalid digit found in string"
  | overflow => "number too large to fit in target type"

end AddressFault

namespace AddressText

/-- Drops `0x` or `0X` in front, once. -/
def dropMarker : List Char → List Char
  | '0' :: 'x' :: rest => rest
  | '0' :: 'X' :: rest => rest
  | cs => cs

/-- Reads digits from left to right onto a number; the first digit that is none, or that makes the
number too large, decides. -/
def readDigits (n : Nat) : List Char → Except AddressFault Nat
  | [] => .ok n
  | c :: rest =>
    match Hex.digitValue? c with
    | none => .error .invalidDigit
    | some d => if 16 * n + d < 2 ^ 32 then readDigits (16 * n + d) rest else .error .overflow

/-- Reads a number with an optional plus sign. -/
def readNumber : List Char → Except AddressFault Nat
  | [] => .error .empty
  | ['+'] => .error .invalidDigit
  | '+' :: rest => readDigits 0 rest
  | cs => readDigits 0 cs

/-- Reads an address. -/
def read (text : List Char) : Except AddressFault Address :=
  match readNumber ((dropMarker (trim text)).filter (· != '_')) with
  | .error cause => .error cause
  | .ok n => .ok (BitVec.ofNat 32 n)

/-- The message about a text that is no address. -/
def refusal (text : String) (cause : AddressFault) : String :=
  "invalid address '" ++ text ++ "': " ++ cause.message

end AddressText

end ConsoleMemory.Text
