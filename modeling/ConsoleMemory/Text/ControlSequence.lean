/-!
# Control sequences

Text for a terminal may hold control characters and sequences that start with an escape character.
`plain` leaves them out and keeps what is meant to be read: printing characters and white space.
White space inside a sequence is kept, and so is what follows it up to the next control character.
-/

namespace ConsoleMemory.Text.ControlSequence

/-- Where the reader is: in ordinary text, or in a sequence. A control string is introduced by its
parameters (`stringEntry`, `stringParameter`, `stringIntermediate`) or starts at once (`string`); a
command string for the operating system has an end of its own. -/
inductive State where
  | ground
  | escape
  | escapeIntermediate
  | control
  | stringEntry
  | stringParameter
  | stringIntermediate
  | string
  | commandString
  deriving DecidableEq, Repr

/-- ASCII white space: tab, line feed, form feed, carriage return and blank. -/
def isSpace (c : Char) : Bool :=
  c == '\t' || c == '\n' || c == '\x0C' || c == '\r' || c == ' '

/-- Whether a character has a code in a range. -/
def within (c : Char) (low high : Nat) : Bool := decide (low ≤ c.toNat ∧ c.toNat ≤ high)

/-- Whether ordinary text keeps a character. -/
def isKept (c : Char) : Bool := isSpace c || within c 0x20 0x7E || decide (0x7F < c.toNat)

/-- Whether the encoding of a character holds the byte that ends a control string. -/
def endsString (c : Char) : Bool :=
  decide (0x7F < c.toNat) && (String.utf8EncodeChar c).contains 0x9C

/-- The state after the character that follows an escape character. -/
def afterEscape (c : Char) : State :=
  if c == '[' then .control
  else if c == ']' then .commandString
  else if c == 'P' then .stringEntry
  else if c == 'X' || c == '^' || c == '_' then .string
  else if within c 0x20 0x2F then .escapeIntermediate
  else if within c 0x30 0x7E then .ground
  else .escape

/-- The state after a character in a state. The cancel and substitute characters end every sequence
and an escape character starts one. -/
def State.next (state : State) (c : Char) : State :=
  if c == '\x18' || c == '\x1A' then .ground
  else if c == '\x1B' then .escape
  else
    match state with
    | .ground => .ground
    | .escape => afterEscape c
    | .escapeIntermediate => if within c 0x30 0x7E then .ground else .escapeIntermediate
    | .control => if within c 0x40 0x7E then .ground else .control
    | .stringEntry =>
      if within c 0x20 0x2F then .stringIntermediate
      else if within c 0x30 0x3F then .stringParameter
      else if within c 0x40 0x7E then .string
      else .stringEntry
    | .stringParameter =>
      if within c 0x20 0x2F then .stringIntermediate
      else if within c 0x3C 0x7E then .string
      else .stringParameter
    | .stringIntermediate => if within c 0x30 0x7E then .string else .stringIntermediate
    | .string => if endsString c then .ground else .string
    | .commandString => if c == '\x07' then .ground else .commandString

/-- Whether a character is kept in a state: everything readable in ordinary text, and white space
other than the blank in the sequences that act on single characters. -/
def State.keeps (state : State) (c : Char) : Bool :=
  match state with
  | .ground => isKept c
  | .escape | .escapeIntermediate | .control => isSpace c && c != ' '
  | _ => false

/-- Leaves control characters and sequences out, from a state on. While text is `open` readable
characters are kept whatever the state was before it. -/
def plainFrom (state : State) (isOpen : Bool) : List Char → List Char
  | [] => []
  | c :: rest =>
    if isOpen && isKept c then
      c :: plainFrom (if 0x7F < c.toNat then .ground else state) true rest
    else if state.keeps c then c :: plainFrom (state.next c) true rest
    else plainFrom (state.next c) false rest

/-- A text without its control characters and sequences. -/
def plain (cs : List Char) : List Char := plainFrom .ground false cs

/-- Only readable characters are left. -/
theorem isKept_of_mem_plainFrom {state : State} {isOpen : Bool} {cs : List Char} {c : Char}
    (h : c ∈ plainFrom state isOpen cs) : isKept c = true := by
  induction cs generalizing state isOpen with
  | nil => simp [plainFrom] at h
  | cons d rest ih =>
    rw [plainFrom] at h
    split at h
    · rename_i hd
      rcases List.mem_cons.1 h with rfl | h
      · exact (Bool.and_eq_true _ _ ▸ hd).2
      · exact ih h
    · split at h
      · rename_i hd
        rcases List.mem_cons.1 h with rfl | h
        · cases state <;> simp_all [State.keeps, isKept]
        · exact ih h
      · exact ih h

/-- Readable text is left as it is. -/
theorem plain_of_forall_isKept {cs : List Char} (h : ∀ c ∈ cs, isKept c = true) :
    plain cs = cs := by
  have main : ∀ (isOpen : Bool) (cs : List Char), (∀ c ∈ cs, isKept c = true) →
      plainFrom .ground isOpen cs = cs := by
    intro isOpen cs
    induction cs generalizing isOpen with
    | nil => intro _; rfl
    | cons c rest ih =>
      intro h
      have hc := h c List.mem_cons_self
      have hrest := fun d hd => h d (List.mem_cons_of_mem c hd)
      have hnext : State.ground.next c = .ground := by
        unfold State.next
        split
        · rfl
        · split
          · rename_i hesc
            have : c = '\x1B' := by simpa using hesc
            subst this
            exact absurd hc (by decide)
          · rfl
      rw [plainFrom]
      split
      · split <;> rw [ih true hrest]
      · rw [if_pos (show State.ground.keeps c = true from hc), hnext, ih true hrest]
  exact main false cs h

end ConsoleMemory.Text.ControlSequence
