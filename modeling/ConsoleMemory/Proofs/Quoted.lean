import ConsoleMemory.Toml.Quoted
import Mathlib.Algebra.Group.Nat.Defs
import Mathlib.Data.List.Basic
import Mathlib.Order.MinMax

/-!
# Written strings are read back

Each of the four string forms is undone by its reader, for the texts that are written in it. A text
in quotes is followed by something other than a quote, for the multi-line readers take up to two
quotes more than the closing three.
-/

namespace ConsoleMemory

/-! ### Hexadecimal numbers -/

namespace Text.Hex

lemma length_digits_le {n k : Nat} (hk : 0 < k) (h : n < 16 ^ k) : (digits n).length ≤ k := by
  induction k generalizing n with
  | zero => omega
  | succ k ih =>
    rw [digits]
    split
    · simp only [List.length_singleton]
      omega
    · rename_i hlarge
      have hsmall : n / 16 < 16 ^ k := by
        rw [Nat.pow_succ] at h
        omega
      have hpos : 0 < k := by
        by_contra hzero
        obtain rfl : k = 0 := by omega
        omega
      have hrest := ih hpos hsmall
      simp only [List.length_append, List.length_singleton]
      omega

lemma length_paddedDigits {n k : Nat} (hk : 0 < k) (h : n < 16 ^ k) :
    (paddedDigits k n).length = k := by
  have hle := length_digits_le hk h
  simp only [paddedDigits, List.length_append, List.length_replicate]
  omega

end Text.Hex

namespace Toml.Quoted

open Text.Hex (digit digits digitValue? paddedDigits)

lemma hexNumber?_digits (n : Nat) : hexNumber? (digits n) = some n := by
  induction n using Nat.strongRecOn with
  | ind n ih =>
    rw [digits]
    split
    · rename_i hlt
      simp [hexNumber?, Text.Hex.digitValue?_digit hlt]
    · rename_i hlarge
      have hrest := ih (n / 16) (by omega)
      have hlast := Text.Hex.digitValue?_digit (Nat.mod_lt n (by decide : 0 < 16))
      rw [hexNumber?] at hrest ⊢
      rw [List.foldlM_append, hrest]
      simp [hlast, Nat.div_add_mod]

lemma hexNumber?_paddedDigits (width n : Nat) : hexNumber? (paddedDigits width n) = some n := by
  have hzeros : ∀ (k : Nat) (cs : List Char),
      hexNumber? (List.replicate k '0' ++ cs) = hexNumber? cs := by
    intro k cs
    induction k with
    | zero => rfl
    | succ k ih =>
      rw [← ih]
      rfl
  rw [paddedDigits, hzeros, hexNumber?_digits]

lemma codeEscape?_paddedDigits (width : Nat) (c : Char) :
    codeEscape? (paddedDigits width c.toNat) = some c := by
  have hvalid : c.toNat.isValidChar := c.valid
  rw [codeEscape?, hexNumber?_paddedDigits]
  dsimp only
  rw [if_pos hvalid, Char.ofNat_toNat]

lemma exists_codeEscape {c : Char} (h : isControl c = true) :
    ∃ x y z w, codeEscape c = ['\\', 'u', x, y, z, w] ∧ codeEscape? [x, y, z, w] = some c := by
  have hsmall : c.toNat < 16 ^ 4 := by
    simp only [isControl, Bool.or_eq_true, Bool.and_eq_true, decide_eq_true_eq, beq_iff_eq] at h
    omega
  have hlength := Text.Hex.length_paddedDigits (by decide) hsmall
  obtain ⟨x, y, z, w, heq⟩ := List.length_eq_four.1 hlength
  have hcode := codeEscape?_paddedDigits 4 c
  rw [heq] at hcode
  exact ⟨x, y, z, w, by rw [codeEscape, heq], hcode⟩

/-! ### Basic strings -/

lemma escapeChar_cases (c : Char) :
    (∃ e, escapeChar c = ['\\', e] ∧ simpleEscape? e = some c) ∨
      (escapeChar c = codeEscape c ∧ isControl c = true) ∨
      (escapeChar c = [c] ∧ isControl c = false ∧ c ≠ '\\') := by
  unfold escapeChar
  by_cases hb : c = '\x08'
  · exact .inl ⟨'b', by simp [hb], by rw [hb]; rfl⟩
  by_cases ht : c = '\t'
  · exact .inl ⟨'t', by simp [ht], by rw [ht]; rfl⟩
  by_cases hf : c = '\x0C'
  · exact .inl ⟨'f', by simp [hf], by rw [hf]; rfl⟩
  by_cases hr : c = '\r'
  · exact .inl ⟨'r', by simp [hr], by rw [hr]; rfl⟩
  by_cases hs : c = '\\'
  · exact .inl ⟨'\\', by simp [hs], by rw [hs]; rfl⟩
  cases hcontrol : isControl c with
  | true => exact .inr (.inl ⟨by simp [hb, ht, hf, hr, hs], rfl⟩)
  | false => exact .inr (.inr ⟨by simp [hb, ht, hf, hr, hs], rfl, hs⟩)

/-- Both readers of basic strings undo escapes and take other characters as they are. -/
structure UndoesEscapes (reader : List Char → Option (List Char × List Char)) : Prop where
  letter : ∀ {c e : Char}, simpleEscape? e = some c → ∀ rest,
    reader ('\\' :: e :: rest) = push (some c) (reader rest)
  code : ∀ x y z w rest,
    reader ('\\' :: 'u' :: x :: y :: z :: w :: rest) =
      push (codeEscape? [x, y, z, w]) (reader rest)
  plain : ∀ {c : Char}, isControl c = false → c ≠ '"' → c ≠ '\\' → ∀ rest,
    reader (c :: rest) = push (some c) (reader rest)

lemma UndoesEscapes.escapeChar {reader : List Char → Option (List Char × List Char)}
    (h : UndoesEscapes reader) {c : Char} (hquote : c ≠ '"') (rest : List Char) :
    reader (escapeChar c ++ rest) = push (some c) (reader rest) := by
  rcases escapeChar_cases c with ⟨e, heq, he⟩ | ⟨heq, hcontrol⟩ | ⟨heq, hcontrol, hslash⟩
  · rw [heq]
    exact h.letter he rest
  · obtain ⟨x, y, z, w, hdigits, hcode⟩ := exists_codeEscape hcontrol
    rw [heq, hdigits, ← hcode]
    exact h.code x y z w rest
  · rw [heq]
    exact h.plain hcontrol hquote hslash rest

lemma undoesEscapes_readBasic : UndoesEscapes readBasic where
  letter {c e} h rest := by
    unfold simpleEscape? at h
    split at h <;> cases h <;> rfl
  code x y z w rest := rfl
  plain {c} hcontrol hquote hslash rest := by
    rw [readBasic.eq_def]
    split <;> simp_all

/-- A basic string on one line can hold every text. -/
lemma readBasic_basicBody (cs rest : List Char) :
    readBasic (basicBody cs ++ '"' :: rest) = some (cs, rest) := by
  induction cs with
  | nil => rfl
  | cons c cs ih =>
    have hstep : readBasic (basicBody (c :: cs) ++ '"' :: rest) =
        push (some c) (readBasic (basicBody cs ++ '"' :: rest)) := by
      rw [basicBody, List.append_assoc]
      by_cases hquote : c = '"'
      · subst hquote
        exact undoesEscapes_readBasic.letter rfl _
      · by_cases hbreak : c = '\n'
        · subst hbreak
          exact undoesEscapes_readBasic.letter rfl _
        · rw [if_neg (by simpa using hquote), if_neg (by simpa using hbreak)]
          exact undoesEscapes_readBasic.escapeChar hquote _
    rw [hstep, ih]
    rfl

/-! ### Literal strings -/

lemma readLiteral_cons {c : Char} (hcontrol : isControl c = false) (hquote : c ≠ '\x27')
    (rest : List Char) : readLiteral (c :: rest) = push (some c) (readLiteral rest) := by
  rw [readLiteral.eq_def]
  split <;> simp_all

lemma readLiteral_append {cs : List Char} (hcontrol : ∀ c ∈ cs, isControl c = false)
    (hquote : '\x27' ∉ cs) (rest : List Char) :
    readLiteral (cs ++ '\x27' :: rest) = some (cs, rest) := by
  induction cs with
  | nil => rfl
  | cons c cs ih =>
    obtain ⟨hne, htail⟩ := not_or.1 (mt List.mem_cons.2 hquote)
    have hrest := ih (fun d hd => hcontrol d (List.mem_cons_of_mem c hd)) htail
    rw [List.cons_append, readLiteral_cons (hcontrol c List.mem_cons_self) (Ne.symm hne), hrest]
    rfl

/-! ### Multi-line basic strings -/

lemma ne_return_of_control {c : Char} (h : isControl c = false) : c ≠ '\r' := by
  rintro rfl
  exact absurd h (by decide)

lemma ne_break_of_control {c : Char} (h : isControl c = false) : c ≠ '\n' := by
  rintro rfl
  exact absurd h (by decide)

lemma undoesEscapes_readMultiBasic : UndoesEscapes (readMultiBasic .text) where
  letter {c e} h rest := by
    unfold simpleEscape? at h
    split at h <;> cases h <;> rfl
  code x y z w rest := rfl
  plain {c} hcontrol hquote hslash rest := by
    have hreturn := ne_return_of_control hcontrol
    have hbreak := ne_break_of_control hcontrol
    rw [readMultiBasic.eq_def]
    split <;> simp_all

lemma readMultiBasic_quote {rest : List Char} (h : ∀ more, rest ≠ '"' :: '"' :: more) :
    readMultiBasic .text ('"' :: rest) = push (some '"') (readMultiBasic .text rest) := by
  rw [readMultiBasic]
  · rfl
  all_goals simp_all

lemma readMultiBasic_close {rest : List Char} (h : rest.head? ≠ some '"') :
    readMultiBasic .text ('"' :: '"' :: '"' :: rest) = some ([], rest) ∧
      readMultiBasic .text ('"' :: '"' :: '"' :: '"' :: rest) = some (['"'], rest) ∧
      readMultiBasic .text ('"' :: '"' :: '"' :: '"' :: '"' :: rest) = some (['"', '"'], rest) := by
  refine ⟨?_, ?_, rfl⟩
  all_goals rw [readMultiBasic] <;> (intros; simp_all)

lemma multiBasicBody_quote {quotes : Nat} (h : quotes ≠ 2) (cs : List Char) :
    multiBasicBody quotes ('"' :: cs) = '"' :: multiBasicBody (quotes + 1) cs := by
  rw [multiBasicBody, if_pos (by decide), if_neg (by simpa using h)]

lemma head?_escapeChar {c : Char} (h : c ≠ '"') (t : List Char) :
    (escapeChar c ++ t).head? ≠ some '"' := by
  rcases escapeChar_cases c with ⟨e, heq, -⟩ | ⟨heq, -⟩ | ⟨heq, -⟩
  · simp [heq]
  · simp [heq, codeEscape]
  · simpa [heq] using h

/-- The inside starts with a quote only where the text does, and not where that quote is the third
of its run. -/
lemma head?_multiBasicBody {quotes : Nat} {c : Char} (h : c = '"' → quotes = 2)
    (cs t : List Char) : (multiBasicBody quotes (c :: cs) ++ t).head? ≠ some '"' := by
  rw [multiBasicBody]
  by_cases hquote : c = '"'
  · simp [hquote, h hquote]
  by_cases hbreak : c = '\n'
  · simp [hbreak]
  rw [if_neg (by simpa using hquote), if_neg (by simpa using hbreak), List.append_assoc]
  exact head?_escapeChar hquote _

/-- After a quote of the text, two more quotes stand only where the text ends. -/
lemma multiBasicBody_ne_quotes {quotes : Nat} {cs : List Char} (hquotes : quotes < 2)
    (hcs : ¬(cs = [] ∨ quotes = 0 ∧ cs = ['"'])) (t : List Char) :
    ∀ more, multiBasicBody (quotes + 1) cs ++ t ≠ '"' :: '"' :: more := by
  intro more heq
  cases cs with
  | nil => exact hcs (.inl rfl)
  | cons c cs =>
    by_cases hopen : c = '"' ∧ quotes = 0
    · obtain ⟨rfl, rfl⟩ := hopen
      rw [multiBasicBody_quote (by decide)] at heq
      have hsecond : multiBasicBody 2 cs ++ t = '"' :: more := (List.cons.inj heq).2
      cases cs with
      | nil => exact hcs (.inr ⟨rfl, rfl⟩)
      | cons d cs =>
        have hhead : (multiBasicBody 2 (d :: cs) ++ t).head? ≠ some '"' :=
          head?_multiBasicBody (fun _ => rfl) cs t
        exact hhead (by rw [hsecond]; rfl)
    · have hthird : c = '"' → quotes + 1 = 2 := by
        intro hquote
        have hpos : quotes ≠ 0 := fun hzero => hopen ⟨hquote, hzero⟩
        omega
      exact head?_multiBasicBody hthird cs t (by rw [heq]; rfl)

/-- A multi-line basic string can hold every text. -/
lemma readMultiBasic_multiBasicBody {quotes : Nat} (hquotes : quotes ≤ 2) (cs : List Char)
    {rest : List Char} (hrest : rest.head? ≠ some '"') :
    readMultiBasic .text (multiBasicBody quotes cs ++ '"' :: '"' :: '"' :: rest) =
      some (cs, rest) := by
  induction cs generalizing quotes with
  | nil => exact (readMultiBasic_close hrest).1
  | cons c cs ih =>
    by_cases hquote : c = '"'
    · subst hquote
      by_cases hthird : quotes = 2
      · subst hthird
        have hstep : readMultiBasic .text
            (multiBasicBody 2 ('"' :: cs) ++ '"' :: '"' :: '"' :: rest) =
            push (some '"')
              (readMultiBasic .text (multiBasicBody 0 cs ++ '"' :: '"' :: '"' :: rest)) :=
          undoesEscapes_readMultiBasic.letter rfl _
        rw [hstep, ih (by omega)]
        rfl
      · rw [multiBasicBody_quote hthird, List.cons_append]
        -- a quote of the text is told from a closing one by what follows its run
        by_cases hend : cs = [] ∨ quotes = 0 ∧ cs = ['"']
        · rcases hend with rfl | ⟨rfl, rfl⟩
          · exact (readMultiBasic_close hrest).2.1
          · exact (readMultiBasic_close hrest).2.2
        · rw [readMultiBasic_quote (multiBasicBody_ne_quotes (by omega) hend _), ih (by omega)]
          rfl
    · by_cases hbreak : c = '\n'
      · subst hbreak
        have hstep : readMultiBasic .text
            (multiBasicBody quotes ('\n' :: cs) ++ '"' :: '"' :: '"' :: rest) =
            push (some '\n')
              (readMultiBasic .text (multiBasicBody 0 cs ++ '"' :: '"' :: '"' :: rest)) := rfl
        rw [hstep, ih (by omega)]
        rfl
      · rw [multiBasicBody, if_neg (by simpa using hquote), if_neg (by simpa using hbreak),
          List.append_assoc, undoesEscapes_readMultiBasic.escapeChar hquote, ih (by omega)]
        rfl

/-! ### Multi-line literal strings -/

lemma readMultiLiteral_cons {c : Char} (hcontrol : isControl c = false) (hquote : c ≠ '\x27')
    (rest : List Char) : readMultiLiteral (c :: rest) = push (some c) (readMultiLiteral rest) := by
  have hreturn := ne_return_of_control hcontrol
  have hbreak := ne_break_of_control hcontrol
  rw [readMultiLiteral.eq_def]
  split <;> simp_all

lemma readMultiLiteral_quote {rest : List Char} (h : ∀ more, rest ≠ '\x27' :: '\x27' :: more) :
    readMultiLiteral ('\x27' :: rest) = push (some '\x27') (readMultiLiteral rest) := by
  rw [readMultiLiteral]
  · rfl
  all_goals simp_all

lemma readMultiLiteral_close {rest : List Char} (h : rest.head? ≠ some '\x27') :
    readMultiLiteral ('\x27' :: '\x27' :: '\x27' :: rest) = some ([], rest) ∧
      readMultiLiteral ('\x27' :: '\x27' :: '\x27' :: '\x27' :: rest) = some (['\x27'], rest) ∧
      readMultiLiteral ('\x27' :: '\x27' :: '\x27' :: '\x27' :: '\x27' :: rest) =
        some (['\x27', '\x27'], rest) := by
  refine ⟨?_, ?_, rfl⟩
  all_goals rw [readMultiLiteral] <;> (intros; simp_all)

lemma le_longestRunFrom (q : Char) (current : Nat) (cs : List Char) :
    current ≤ longestRunFrom q current cs := by
  induction cs generalizing current with
  | nil => exact le_rfl
  | cons c cs ih =>
    rw [longestRunFrom]
    split
    · exact (Nat.le_succ current).trans (ih _)
    · exact le_max_left _ _

lemma longestRunFrom_mono (q : Char) {m n : Nat} (h : m ≤ n) (cs : List Char) :
    longestRunFrom q m cs ≤ longestRunFrom q n cs := by
  induction cs generalizing m n with
  | nil => exact h
  | cons c cs ih =>
    rw [longestRunFrom, longestRunFrom]
    split
    · exact ih (Nat.succ_le_succ h)
    · exact max_le_max h le_rfl

lemma longestRun_tail_le (q c : Char) (cs : List Char) :
    longestRun q cs ≤ longestRun q (c :: cs) := by
  rw [longestRun, longestRun, longestRunFrom]
  split
  · exact longestRunFrom_mono q (Nat.zero_le _) cs
  · exact le_max_right _ _

lemma longestRun_pos {q : Char} {cs : List Char} (h : q ∈ cs) : 0 < longestRun q cs := by
  induction cs with
  | nil => cases h
  | cons c cs ih =>
    rcases List.mem_cons.1 h with rfl | htail
    · rw [longestRun, longestRunFrom, if_pos (by simp)]
      exact le_longestRunFrom q 1 cs
    · exact (ih htail).trans_le (longestRun_tail_le q c cs)

lemma append_ne_quotes {cs : List Char} (hrun : longestRun '\x27' ('\x27' :: cs) ≤ 2)
    (hcs : ¬(cs = [] ∨ cs = ['\x27'])) (t : List Char) :
    ∀ more, cs ++ t ≠ '\x27' :: '\x27' :: more := by
  intro more heq
  match cs with
  | [] => exact hcs (.inl rfl)
  | [c] =>
    obtain rfl : c = '\x27' := (List.cons.inj heq).1
    exact hcs (.inr rfl)
  | c :: d :: cs =>
    obtain rfl : c = '\x27' := (List.cons.inj heq).1
    obtain rfl : d = '\x27' := (List.cons.inj (List.cons.inj heq).2).1
    have hthree : 3 ≤ longestRun '\x27' ('\x27' :: '\x27' :: '\x27' :: cs) :=
      le_longestRunFrom '\x27' 3 cs
    omega

/-- A multi-line literal string can hold a text without control characters but line feeds and
without three single quotes in a row. -/
lemma readMultiLiteral_append {cs rest : List Char}
    (hcontrol : ∀ c ∈ cs, c = '\n' ∨ isControl c = false) (hrun : longestRun '\x27' cs ≤ 2)
    (hrest : rest.head? ≠ some '\x27') :
    readMultiLiteral (cs ++ '\x27' :: '\x27' :: '\x27' :: rest) = some (cs, rest) := by
  induction cs with
  | nil => exact (readMultiLiteral_close hrest).1
  | cons c cs ih =>
    have htail := ih (fun d hd => hcontrol d (List.mem_cons_of_mem c hd))
      ((longestRun_tail_le '\x27' c cs).trans hrun)
    by_cases hquote : c = '\x27'
    · subst hquote
      by_cases hend : cs = [] ∨ cs = ['\x27']
      · rcases hend with rfl | rfl
        · exact (readMultiLiteral_close hrest).2.1
        · exact (readMultiLiteral_close hrest).2.2
      · rw [List.cons_append, readMultiLiteral_quote (append_ne_quotes hrun hend _), htail]
        rfl
    · rcases hcontrol c List.mem_cons_self with rfl | hc
      · have hstep : readMultiLiteral ('\n' :: cs ++ '\x27' :: '\x27' :: '\x27' :: rest) =
            push (some '\n') (readMultiLiteral (cs ++ '\x27' :: '\x27' :: '\x27' :: rest)) := rfl
        rw [hstep, htail]
        rfl
      · rw [List.cons_append, readMultiLiteral_cons hc hquote, htail]
        rfl

/-! ### Writing and reading -/

/-- What a text must be to stand in a form as it is, or escaped where the form has escapes. -/
def Form.Holds : Form → List Char → Prop
  | .basic, cs => '\n' ∉ cs
  | .literal, cs => '\n' ∉ cs ∧ (∀ c ∈ cs, isControl c = false) ∧ '\x27' ∉ cs
  | .multiBasic, _ => True
  | .multiLiteral, cs =>
    (∀ c ∈ cs, c = '\n' ∨ isControl c = false) ∧ longestRun '\x27' cs ≤ 2

lemma hasControl_eq_false {cs : List Char} (h : hasControl cs = false) :
    ∀ c ∈ cs, c = '\n' ∨ isControl c = false := by
  intro c hc
  have hnot := List.any_eq_false.1 h c hc
  by_cases hbreak : c = '\n'
  · exact .inl hbreak
  · exact .inr (by simpa [hbreak] using hnot)

lemma holds_formFor (cs : List Char) : (formFor cs).Holds cs := by
  unfold formFor
  dsimp only
  split
  · rename_i h
    simp only [Bool.and_eq_true, Bool.not_eq_true', List.contains_eq_mem,
      decide_eq_false_iff_not] at h
    exact h.1.2
  split
  · rename_i h
    simp only [Bool.and_eq_true, Bool.not_eq_true', List.contains_eq_mem,
      decide_eq_false_iff_not, beq_iff_eq] at h
    obtain ⟨⟨hcontrol, hbreak⟩, hrun⟩ := h
    refine ⟨hbreak, fun c hc => ?_, fun hquote => (longestRun_pos hquote).ne' hrun⟩
    refine (hasControl_eq_false hcontrol c hc).resolve_left ?_
    rintro rfl
    exact hbreak hc
  split
  · trivial
  split
  · rename_i h
    simp only [Bool.and_eq_true, Bool.not_eq_true', decide_eq_true_eq] at h
    exact ⟨hasControl_eq_false h.1, h.2⟩
  split
  · trivial
  · rename_i h
    rwa [List.contains_eq_mem, decide_eq_true_eq] at h

lemma dropFirstBreak_opening {cs inside : List Char}
    (h : '\n' ∉ cs → inside.head? ≠ some '\n' ∧ inside.head? ≠ some '\r') :
    dropFirstBreak (opening cs ++ inside) = inside := by
  by_cases hbreak : '\n' ∈ cs
  · rw [opening, if_pos (by simpa using hbreak)]
    rfl
  · obtain ⟨hfeed, hreturn⟩ := h hbreak
    rw [opening, if_neg (by simpa using hbreak), List.nil_append, dropFirstBreak.eq_def]
    split <;> simp_all

lemma opening_of_notMem {cs : List Char} (h : '\n' ∉ cs) : opening cs = [] := by
  rw [opening, if_neg (by simpa using h)]

lemma read_basic {t : List Char} (h : ∀ more, t ≠ '"' :: '"' :: more) :
    read ('"' :: t) = readBasic t := by
  rw [read]
  simp_all

lemma read_literal {t : List Char} (h : ∀ more, t ≠ '\x27' :: '\x27' :: more) :
    read ('\x27' :: t) = readLiteral t := by
  rw [read]
  simp_all

lemma basicBody_ne_quotes (cs : List Char) {rest : List Char} (h : rest.head? ≠ some '"') :
    ∀ more, basicBody cs ++ '"' :: rest ≠ '"' :: '"' :: more := by
  intro more heq
  cases cs with
  | nil =>
    obtain rfl : rest = '"' :: more := (List.cons.inj heq).2
    exact h rfl
  | cons c cs =>
    have hhead : (basicBody (c :: cs) ++ '"' :: rest).head? ≠ some '"' := by
      rw [basicBody, List.append_assoc]
      by_cases hquote : c = '"'
      · simp [hquote]
      by_cases hbreak : c = '\n'
      · simp [hbreak]
      rw [if_neg (by simpa using hquote), if_neg (by simpa using hbreak)]
      exact head?_escapeChar hquote _
    exact hhead (by rw [heq]; rfl)

lemma literal_ne_quotes {cs rest : List Char} (hcs : '\x27' ∉ cs)
    (h : rest.head? ≠ some '\x27') :
    ∀ more, cs ++ '\x27' :: rest ≠ '\x27' :: '\x27' :: more := by
  intro more heq
  cases cs with
  | nil =>
    obtain rfl : rest = '\x27' :: more := (List.cons.inj heq).2
    exact h rfl
  | cons c cs =>
    obtain rfl : c = '\x27' := (List.cons.inj heq).1
    exact hcs List.mem_cons_self

lemma head?_multiBasicBody_of_notMem {cs : List Char} (h : '\n' ∉ cs) (t : List Char) :
    (multiBasicBody 0 cs ++ '"' :: t).head? ≠ some '\n' ∧
      (multiBasicBody 0 cs ++ '"' :: t).head? ≠ some '\r' := by
  cases cs with
  | nil => exact ⟨by simp [multiBasicBody], by simp [multiBasicBody]⟩
  | cons c cs =>
    have hbreak : c ≠ '\n' := fun heq => h (heq ▸ List.mem_cons_self)
    by_cases hquote : c = '"'
    · simp [multiBasicBody, hquote]
    rw [multiBasicBody, if_neg (by simpa using hquote), if_neg (by simpa using hbreak)]
    rcases escapeChar_cases c with ⟨e, heq, -⟩ | ⟨heq, -⟩ | ⟨heq, hcontrol, -⟩
    · simp [heq]
    · simp [heq, codeEscape]
    · simpa [heq, hbreak] using ne_return_of_control hcontrol

lemma read_form {form : Form} {cs rest : List Char} (h : form.Holds cs)
    (hdouble : rest.head? ≠ some '"') (hsingle : rest.head? ≠ some '\x27') :
    read (delimiter form ++ opening cs ++ body form cs ++ delimiter form ++ rest) =
      some (cs, rest) := by
  simp only [List.append_assoc]
  cases form with
  | basic =>
    rw [opening_of_notMem h]
    exact (read_basic (basicBody_ne_quotes cs hdouble)).trans (readBasic_basicBody cs rest)
  | literal =>
    obtain ⟨hbreak, hcontrol, hquote⟩ := h
    rw [opening_of_notMem hbreak]
    exact (read_literal (literal_ne_quotes hquote hsingle)).trans
      (readLiteral_append hcontrol hquote rest)
  | multiBasic =>
    have hdrop : dropFirstBreak
        (opening cs ++ (multiBasicBody 0 cs ++ '"' :: '"' :: '"' :: rest)) =
        multiBasicBody 0 cs ++ '"' :: '"' :: '"' :: rest :=
      dropFirstBreak_opening fun hbreak => head?_multiBasicBody_of_notMem hbreak _
    have hread := readMultiBasic_multiBasicBody (Nat.zero_le 2) cs hdouble
    rw [← hdrop] at hread
    exact hread
  | multiLiteral =>
    obtain ⟨hcontrol, hrun⟩ := h
    have hdrop : dropFirstBreak (opening cs ++ (cs ++ '\x27' :: '\x27' :: '\x27' :: rest)) =
        cs ++ '\x27' :: '\x27' :: '\x27' :: rest := by
      refine dropFirstBreak_opening fun hbreak => ?_
      cases cs with
      | nil => exact ⟨by simp, by simp⟩
      | cons c cs =>
        have hne : c ≠ '\n' := fun heq => hbreak (heq ▸ List.mem_cons_self)
        have hc := (hcontrol c List.mem_cons_self).resolve_left hne
        exact ⟨by simpa using hne, by simpa using ne_return_of_control hc⟩
    have hread := readMultiLiteral_append hcontrol hrun hsingle
    rw [← hdrop] at hread
    exact hread

/-- A written string is read back, whatever its characters are, if no quote follows it. -/
theorem read_write (cs : List Char) {rest : List Char} (hdouble : rest.head? ≠ some '"')
    (hsingle : rest.head? ≠ some '\x27') : read (write cs ++ rest) = some (cs, rest) :=
  read_form (holds_formFor cs) hdouble hsingle

end Toml.Quoted

end ConsoleMemory
