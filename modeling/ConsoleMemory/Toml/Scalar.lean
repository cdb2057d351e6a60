import ConsoleMemory.Text.Hex

/-!
# Bare values in TOML

The values that are written without quotes or brackets: truth values, integers, floats and points in
time. `Scalar.parse?` reads a whole token. Integers have at most 128 bits, a float is finite unless
it is spelled otherwise, and a day must exist in its month.
-/

namespace ConsoleMemory.Toml

/-- A value without quotes or brackets. Floats and points in time are kept as written. -/
inductive Scalar where
  | boolean (value : Bool)
  | integer (value : Int)
  | float (text : List Char)
  | moment (text : List Char)
  deriving DecidableEq, Repr

namespace Scalar

/-- The value of a digit in a base. -/
def digit? (base : Nat) (c : Char) : Option Nat :=
  match Text.Hex.digitValue? c with
  | some d => if d < base then some d else none
  | none => none

/-- Continues a number after a digit: digits, each after at most one underscore. -/
def digitsAfter (base : Nat) : Nat → List Char → Option Nat
  | n, [] => some n
  | n, '_' :: c :: rest =>
    match digit? base c with
    | some d => digitsAfter base (n * base + d) rest
    | none => none
  | n, c :: rest =>
    match digit? base c with
    | some d => digitsAfter base (n * base + d) rest
    | none => none

/-- A number of at least one digit, with single underscores between digits. -/
def digits? (base : Nat) : List Char → Option Nat
  | [] => none
  | c :: rest =>
    match digit? base c with
    | some d => digitsAfter base d rest
    | none => none

/-- A decimal number without leading zeros. -/
def decimal? (cs : List Char) : Option Nat :=
  match cs with
  | '0' :: _ :: _ => none
  | _ => digits? 10 cs

/-- The sign in front, if any: whether it is a minus, and what follows. -/
def splitSign : List Char → Bool × List Char
  | '-' :: rest => (true, rest)
  | '+' :: rest => (false, rest)
  | cs => (false, cs)

/-- Whether an integer fits a signed or an unsigned number of 128 bits. -/
def fits (n : Int) : Bool :=
  decide (-Int.ofNat (Nat.pow 2 127) ≤ n) && decide (n < Int.ofNat (Nat.pow 2 128))

/-- An integer: decimal with an optional sign, or hexadecimal, octal or binary without one. -/
def integer? (cs : List Char) : Option Int :=
  let value : Option Int :=
    match cs with
    | '0' :: 'x' :: rest => (digits? 16 rest).map Int.ofNat
    | '0' :: 'o' :: rest => (digits? 8 rest).map Int.ofNat
    | '0' :: 'b' :: rest => (digits? 2 rest).map Int.ofNat
    | _ =>
      let (negative, rest) := splitSign cs
      (decimal? rest).map fun n => if negative then -Int.ofNat n else Int.ofNat n
  value.filter fits

/-- Characters of a run of digits. -/
def isDigitRun (c : Char) : Bool := c.isDigit || c == '_'

/-- The exponent of a float after its `e`. -/
def exponent? (cs : List Char) : Option Int :=
  let (negative, rest) := splitSign cs
  (digits? 10 rest).map fun n => if negative then -Int.ofNat n else Int.ofNat n

/-- How many decimal digits a number has. -/
def decimalLength (n : Nat) : Nat := (Nat.toDigits 10 n).length

/-- Whether `m` times ten to the `e` is too large for a float of 64 bits. Far from the limit the
number of digits decides. -/
def overflows (m : Nat) (e : Int) : Bool :=
  if m = 0 then false
  else
    let magnitude := (decimalLength m : Int) + e
    if magnitude < 300 then false
    else if 320 < magnitude then true
    else
      let limit := Nat.pow 2 1024 - Nat.pow 2 970
      if 0 ≤ e then decide (limit ≤ m * Nat.pow 10 e.toNat)
      else decide (limit * Nat.pow 10 (-e).toNat ≤ m)

/-- A float: a decimal number with a fraction, an exponent or both, or one of the words. -/
def isFloat (cs : List Char) : Bool :=
  let (_, unsigned) := splitSign cs
  if unsigned == ['i', 'n', 'f'] || unsigned == ['n', 'a', 'n'] then true
  else
    let whole := unsigned.takeWhile isDigitRun
    let afterWhole := unsigned.dropWhile isDigitRun
    let (fraction, afterFraction) :=
      match afterWhole with
      | '.' :: rest => (rest.takeWhile isDigitRun, rest.dropWhile isDigitRun)
      | _ => ([], afterWhole)
    let pointed := afterWhole.head? == some '.'
    let exponent : Option Int :=
      match afterFraction with
      | [] => if pointed then some 0 else none
      | c :: rest => if c == 'e' || c == 'E' then exponent? rest else none
    let fractionOk := !pointed || (digits? 10 fraction).isSome
    match decimal? whole, exponent with
    | some _, some e =>
      let shown := (whole ++ fraction).filter Char.isDigit
      let places := (fraction.filter Char.isDigit).length
      fractionOk && !overflows ((digits? 10 shown).getD 0) (e - places)
    | _, _ => false

/-- Two decimal digits at the front: their number and what follows. -/
def twoDigits? : List Char → Option (Nat × List Char)
  | a :: b :: rest =>
    match digit? 10 a, digit? 10 b with
    | some x, some y => some (10 * x + y, rest)
    | _, _ => none
  | _ => none

/-- Days of a month. -/
def daysIn (year month : Nat) : Nat :=
  if month = 2 then
    if year % 4 = 0 ∧ (year % 100 ≠ 0 ∨ year % 400 = 0) then 29 else 28
  else if month = 4 ∨ month = 6 ∨ month = 9 ∨ month = 11 then 30
  else 31

/-- What follows a date at the front. -/
def afterDate? (cs : List Char) : Option (List Char) :=
  match twoDigits? cs with
  | none => none
  | some (century, cs) =>
    match twoDigits? cs with
    | some (year, '-' :: cs) =>
      match twoDigits? cs with
      | some (month, '-' :: cs) =>
        match twoDigits? cs with
        | some (day, cs) =>
          let last := daysIn (100 * century + year) month
          if 1 ≤ month ∧ month ≤ 12 ∧ 1 ≤ day ∧ day ≤ last then some cs else none
        | none => none
      | _ => none
    | _ => none

/-- What follows a fraction of a second, if there is one. -/
def afterFraction? : List Char → Option (List Char)
  | '.' :: c :: rest => if c.isDigit then some (rest.dropWhile Char.isDigit) else none
  | '.' :: [] => none
  | cs => some cs

/-- What follows the seconds of a time of day, if there are any. A minute may have a leap second. -/
def afterSeconds? : List Char → Option (List Char)
  | ':' :: cs =>
    match twoDigits? cs with
    | some (second, cs) => if second ≤ 60 then afterFraction? cs else none
    | none => none
  | cs => some cs

/-- What follows a time of day at the front. Its seconds may be left out. -/
def afterTime? (cs : List Char) : Option (List Char) :=
  match twoDigits? cs with
  | some (hour, ':' :: cs) =>
    match twoDigits? cs with
    | some (minute, cs) => if hour ≤ 23 ∧ minute ≤ 59 then afterSeconds? cs else none
    | none => none
  | _ => none

/-- Whether a text is nothing, or an offset from universal time. -/
def isOffset (cs : List Char) : Bool :=
  match cs with
  | [] => true
  | [c] => c == 'Z' || c == 'z'
  | c :: rest =>
    if c == '+' || c == '-' then
      match twoDigits? rest with
      | some (hour, ':' :: rest) =>
        match twoDigits? rest with
        | some (minute, []) => decide (hour ≤ 23) && decide (minute ≤ 59)
        | _ => false
      | _ => false
    else false

/-- A date, a time of day, or both with an optional offset. -/
def isMoment (cs : List Char) : Bool :=
  match afterDate? cs with
  | some [] => true
  | some (c :: rest) =>
    (c == 'T' || c == 't' || c == ' ') &&
      match afterTime? rest with
      | some offset => isOffset offset
      | none => false
  | none => afterTime? cs == some []

/-- Reads a whole token. -/
def parse? (cs : List Char) : Option Scalar :=
  if cs == ['t', 'r', 'u', 'e'] then some (boolean true)
  else if cs == ['f', 'a', 'l', 's', 'e'] then some (boolean false)
  else
    match integer? cs with
    | some n => some (integer n)
    | none =>
      if isFloat cs then some (float cs)
      else if isMoment cs then some (moment cs)
      else none

/-- Characters of a token. -/
def isTokenChar (c : Char) : Bool :=
  c.isAlphanum || c == '+' || c == '-' || c == '_' || c == '.' || c == ':'

/-- Whether a text goes on with a blank and a digit, as between a date and a time. -/
def continuesMoment : List Char → Bool
  | ' ' :: c :: _ => c.isDigit
  | _ => false

/-- Reads a value at the front of a text: the value and what follows. A blank after a date joins the
time after it. -/
def read (cs : List Char) : Option (Scalar × List Char) :=
  let token := cs.takeWhile isTokenChar
  let rest := cs.dropWhile isTokenChar
  let joined := token.length == 10 && (afterDate? token) == some [] && continuesMoment rest
  if joined then
    let time := (rest.drop 1).takeWhile isTokenChar
    (parse? (token ++ ' ' :: time)).map fun v => (v, (rest.drop 1).dropWhile isTokenChar)
  else (parse? token).map fun v => (v, rest)

end Scalar

end ConsoleMemory.Toml
