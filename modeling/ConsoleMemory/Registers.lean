import ConsoleMemory.Word

/-!
# Hardware registers

A register bank answers reads and writes of every width. A bank of words knows only 32-bit accesses;
its narrow accesses go to the aligned word that holds the byte or half: a narrow read extracts its
lane, a narrow write reads the word, replaces the lane and writes the word back.
-/

namespace ConsoleMemory

/-- A set of hardware registers with state `ρ`. -/
class RegisterBank (ρ : Type) where
  name : ρ → String
  read : (w : Width) → Address → ρ → Value w × ρ
  write : {w : Width} → Address → Value w → ρ → ρ

/-- A machine without registers. -/
instance : RegisterBank Empty where
  name bank := nomatch bank
  read _ _ bank := nomatch bank
  write _ _ bank := nomatch bank

/-- A set of hardware registers that knows only whole words. -/
class WordBank (ρ : Type) where
  name : ρ → String := fun _ => "Hardware Registers"
  readWord : Address → ρ → Value .word × ρ
  writeWord : Address → Value .word → ρ → ρ

/-- An access of a register bank. -/
inductive RegisterCall where
  | read (w : Width) (a : Address)
  | write (w : Width) (a : Address) (v : Value w)
  deriving DecidableEq, Repr

namespace WordBank

variable {ρ : Type} [WordBank ρ]

/-- The lowest bit, in the aligned word, of the lane a narrow access acts on. A half lies at an even
byte. -/
def laneShift (w : Width) (a : Address) : Nat :=
  match w with
  | .byte => 8 * (a.toNat % 4)
  | .half => 16 * (a.toNat % 4 / 2)
  | .word => 0

/-- The lane of a word. -/
def lane (w : Width) (shift : Nat) (word : BitVec 32) : Value w := Value.ofWord w (word >>> shift)

/-- A word with one lane replaced. -/
def replaceLane {w : Width} (shift : Nat) (word : BitVec 32) (v : Value w) : BitVec 32 :=
  let mask := ~~~((BitVec.allOnes w.bits).setWidth 32 <<< shift)
  (word &&& mask) ||| (v.toWord <<< shift)

/-- A narrow read: one read of the aligned word. -/
def readLane (w : Width) (a : Address) (bank : ρ) : Value w × ρ :=
  let (word, after) := readWord a.wordStart bank
  (lane w (laneShift w a) word, after)

/-- A narrow write: one read of the aligned word, then one write of it. -/
def writeLane {w : Width} (a : Address) (v : Value w) (bank : ρ) : ρ :=
  let (word, after) := readWord a.wordStart bank
  writeWord a.wordStart (replaceLane (laneShift w a) word v) after

/-- A bank of words as a register bank. -/
instance : RegisterBank ρ where
  name := WordBank.name
  read
    | .byte, a, bank => readLane .byte a bank
    | .half, a, bank => readLane .half a bank
    | .word, a, bank => readWord a bank
  write {w} a v bank :=
    match w, v with
    | .byte, v => writeLane a v bank
    | .half, v => writeLane a v bank
    | .word, v => writeWord a v bank

end WordBank

end ConsoleMemory
