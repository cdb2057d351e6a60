import Mathlib.Data.List.DropRight
import Mathlib.Data.List.Forall2
import Mathlib.Data.Nat.Digits.Defs
import Mathlib.Tactic.IntervalCases
import Mathlib.Tactic.Ring
import ConsoleMemory.Text.AddressText

/-!
# The grammar of addresses

The texts that are read as an address, described without the reader: what is trimmed, what may stand
in front, and the number that digits stand for by their places. A number is written in many ways,
and all of them are read.
-/

namespace ConsoleMemory.Text

/-- `t` is `raw` without the white space around it. -/
structure Trims (raw t : List Char) : Prop where
  eq_append : ∃ front back, (∀ c ∈ front, isBlank c = true) ∧ (∀ c ∈ back, isBlank c = true) ∧
    raw = front ++ t ++ back
  first : ∀ c ∈ t.head?, isBlank c = false
  last : ∀ c ∈ t.getLast?, isBlank c = false

lemma trims_trim (raw : List Char) : Trims raw (trim raw) := by
  have hend : trim raw = (trimStart raw).rdropWhile isBlank := rfl
  refine ⟨⟨raw.takeWhile isBlank, (trimStart raw).rtakeWhile isBlank, ?_, ?_, ?_⟩, ?_, ?_⟩
  · exact fun c hc => List.mem_takeWhile_imp hc
  · exact fun c hc => List.mem_rtakeWhile_imp hc
  · rw [hend, List.append_assoc, List.rdropWhile_append_rtakeWhile]
    exact List.takeWhile_append_dropWhile.symm
  · intro c hc
    obtain ⟨rest, hrest⟩ := List.rdropWhile_prefix isBlank (trimStart raw)
    have hhead : (trimStart raw).head? = some c := by
      rw [← hrest, ← hend, List.head?_append, hc, Option.some_or]
    have hnot := List.head?_dropWhile_not isBlank raw
    rw [show (raw.dropWhile isBlank).head? = some c from hhead] at hnot
    exact hnot
  · intro c hc
    rw [hend] at hc
    obtain ⟨hne, rfl⟩ := List.mem_getLast?_eq_getLast hc
    simpa using List.rdropWhile_last_not isBlank (trimStart raw) hne

lemma dropWhile_eq_self_of_head? {t : List Char} (h : ∀ c ∈ t.head?, isBlank c = false) :
    t.dropWhile isBlank = t := by
  cases t with
  | nil => rfl
  | cons c rest => rw [List.dropWhile_cons_of_neg (by simp [h c rfl])]

lemma Trims.trim_eq {raw t : List Char} (h : Trims raw t) : trim raw = t := by
  obtain ⟨⟨front, back, hfront, hback, rfl⟩, hfirst, hlast⟩ := h
  cases t with
  | nil =>
    have hstart : trimStart (front ++ [] ++ back) = [] := by
      apply List.dropWhile_eq_nil_iff.2
      intro c hc
      rw [List.append_nil] at hc
      exact (List.mem_append.1 hc).elim (hfront c) (hback c)
    rw [trim, hstart]
    rfl
  | cons c rest =>
    have hstart : trimStart (front ++ c :: rest ++ back) = c :: rest ++ back := by
      rw [trimStart, List.append_assoc, List.dropWhile_append_of_pos hfront, List.cons_append,
        List.dropWhile_cons_of_neg (by simp [hfirst c rfl])]
    have hend : (c :: rest).reverse.dropWhile isBlank = (c :: rest).reverse := by
      apply dropWhile_eq_self_of_head?
      rwa [List.head?_reverse]
    rw [trim, hstart, trimEnd, List.reverse_append,
      List.dropWhile_append_of_pos (by simpa using hback), hend, List.reverse_reverse]

lemma trim_eq_iff (raw t : List Char) : trim raw = t ↔ Trims raw t := by
  constructor
  · rintro rfl
    exact trims_trim raw
  · exact Trims.trim_eq

namespace AddressText

/-- `d` is `t` without the `0x` or `0X` in front of it, if there is one. -/
inductive Unmarked : List Char → List Char → Prop
  | lower (d : List Char) : Unmarked ('0' :: 'x' :: d) d
  | upper (d : List Char) : Unmarked ('0' :: 'X' :: d) d
  | bare {t : List Char} (lower : ¬['0', 'x'] <+: t) (upper : ¬['0', 'X'] <+: t) : Unmarked t t

/-- A digit of either case and its value. -/
def IsDigit (c : Char) (d : Nat) : Prop :=
  "0123456789abcdef".toList[d]? = some c ∨ "0123456789ABCDEF".toList[d]? = some c

/-- One or more digits, the most significant first, and the number they stand for. -/
def Numeral (cs : List Char) (n : Nat) : Prop :=
  cs ≠ [] ∧ ∃ ds, List.Forall₂ IsDigit cs ds ∧ n = Nat.ofDigits 16 ds.reverse

/-- A text and the number it stands for, of any size. -/
def Denotes (raw : List Char) (n : Nat) : Prop :=
  ∃ t d digits, Trims raw t ∧ Unmarked t d ∧
    (d.filter (· != '_') = digits ∨ d.filter (· != '_') = '+' :: digits) ∧ Numeral digits n

lemma dropMarker_eq_iff (t d : List Char) : dropMarker t = d ↔ Unmarked t d := by
  constructor
  · rintro rfl
    unfold dropMarker
    split
    case h_1 rest => exact .lower rest
    case h_2 rest => exact .upper rest
    case h_3 hlower hupper =>
      refine .bare ?_ ?_
      · rintro ⟨rest, rfl⟩
        exact hlower rest rfl
      · rintro ⟨rest, rfl⟩
        exact hupper rest rfl
  · rintro (_ | _ | ⟨hlower, hupper⟩)
    · rfl
    · rfl
    · unfold dropMarker
      split
      case h_1 rest => exact absurd ⟨rest, rfl⟩ hlower
      case h_2 rest => exact absurd ⟨rest, rfl⟩ hupper
      case h_3 => rfl

lemma IsDigit.lt {c : Char} {d : Nat} (h : IsDigit c d) : d < 16 := by
  rcases h with h | h <;> exact (List.getElem?_eq_some_iff.1 h).1

lemma exists_eq_ofNat_of_le {low high c : Char} (hlow : low ≤ c) (hhigh : c ≤ high) :
    ∃ k ≤ high.toNat - low.toNat, c = Char.ofNat (low.toNat + k) := by
  rw [Char.le_def, UInt32.le_iff_toNat_le] at hlow hhigh
  simp only [Char.toNat]
  refine ⟨c.val.toNat - low.val.toNat, by omega, ?_⟩
  rw [Nat.add_sub_cancel' hlow]
  exact (Char.ofNat_toNat c).symm

lemma digitValue?_eq_some_iff (c : Char) (d : Nat) :
    Hex.digitValue? c = some d ↔ IsDigit c d := by
  constructor
  · intro h
    unfold Hex.digitValue? at h
    split at h
    case isTrue hc =>
      obtain ⟨k, hk, rfl⟩ := exists_eq_ofNat_of_le hc.1 hc.2
      simp only [Char.reduceToNat, Nat.reduceSub] at hk
      interval_cases k <;> obtain rfl := Option.some.inj h <;> exact .inl rfl
    case isFalse =>
      split at h
      case isTrue hc =>
        obtain ⟨k, hk, rfl⟩ := exists_eq_ofNat_of_le hc.1 hc.2
        simp only [Char.reduceToNat, Nat.reduceSub] at hk
        interval_cases k <;> obtain rfl := Option.some.inj h <;> exact .inr rfl
      case isFalse =>
        split at h
        case isTrue hc =>
          obtain ⟨k, hk, rfl⟩ := exists_eq_ofNat_of_le hc.1 hc.2
          simp only [Char.reduceToNat, Nat.reduceSub] at hk
          interval_cases k <;> obtain rfl := Option.some.inj h <;> exact .inl rfl
        case isFalse => cases h
  · intro h
    have hd := h.lt
    interval_cases d <;> rcases h with h | h <;> obtain rfl := Option.some.inj h <;> rfl

lemma ofDigits_reverse_cons (d : Nat) (ds : List Nat) :
    Nat.ofDigits 16 (d :: ds).reverse = d * 16 ^ ds.length + Nat.ofDigits 16 ds.reverse := by
  rw [List.reverse_cons, Nat.ofDigits_append, Nat.ofDigits_singleton, List.length_reverse]
  ring

lemma readDigits_nil (m : Nat) : readDigits m [] = .ok m := rfl

lemma readDigits_cons (m : Nat) (c : Char) (rest : List Char) :
    readDigits m (c :: rest) =
      match Hex.digitValue? c with
      | none => .error .invalidDigit
      | some d => if 16 * m + d < 2 ^ 32 then readDigits (16 * m + d) rest else .error .overflow :=
  rfl

/-- Reading stops at the first number that is too large, and what digits stand for never gets
smaller from there on. -/
lemma readDigits_eq_ok_iff (cs : List Char) :
    ∀ m n, m < 2 ^ 32 → (readDigits m cs = .ok n ↔
      n < 2 ^ 32 ∧ ∃ ds, List.Forall₂ IsDigit cs ds ∧
        n = m * 16 ^ cs.length + Nat.ofDigits 16 ds.reverse) := by
  induction cs with
  | nil =>
    intro m n hm
    simp only [readDigits_nil, Except.ok.injEq, List.forall₂_nil_left_iff, exists_eq_left]
    simp only [List.length_nil, pow_zero, mul_one, List.reverse_nil, Nat.ofDigits_nil, add_zero]
    constructor
    · rintro rfl
      exact ⟨hm, rfl⟩
    · exact fun h => h.2.symm
  | cons c rest ih =>
    intro m n hm
    have hsplit : (∃ ds, List.Forall₂ IsDigit (c :: rest) ds ∧
        n = m * 16 ^ (c :: rest).length + Nat.ofDigits 16 ds.reverse) ↔
        ∃ d, Hex.digitValue? c = some d ∧ ∃ ds, List.Forall₂ IsDigit rest ds ∧
          n = (16 * m + d) * 16 ^ rest.length + Nat.ofDigits 16 ds.reverse := by
      constructor
      · rintro ⟨_, hall, rfl⟩
        obtain ⟨d, ds, hd, hds, rfl⟩ := List.forall₂_cons_left_iff.1 hall
        refine ⟨d, (digitValue?_eq_some_iff c d).2 hd, ds, hds, ?_⟩
        rw [ofDigits_reverse_cons, List.length_cons, hds.length_eq]
        ring
      · rintro ⟨d, hd, ds, hds, rfl⟩
        refine ⟨d :: ds, .cons ((digitValue?_eq_some_iff c d).1 hd) hds, ?_⟩
        rw [ofDigits_reverse_cons, List.length_cons, hds.length_eq]
        ring
    rw [hsplit, readDigits_cons]
    cases hvalue : Hex.digitValue? c with
    | none => simp
    | some d =>
      simp only [Option.some.injEq, exists_eq_left']
      split
      case isTrue hsmall => exact ih _ n hsmall
      case isFalse hlarge =>
        simp only [reduceCtorEq, false_iff]
        rintro ⟨hn, ds, -, rfl⟩
        have hpow : 1 ≤ 16 ^ rest.length := Nat.one_le_pow _ _ (by decide)
        have hge := Nat.mul_le_mul_left (16 * m + d) hpow
        omega

lemma readDigits_zero_eq_ok_iff {cs : List Char} (hcs : cs ≠ []) (n : Nat) :
    readDigits 0 cs = .ok n ↔ n < 2 ^ 32 ∧ Numeral cs n := by
  rw [readDigits_eq_ok_iff cs 0 n (by decide)]
  simp [Numeral, hcs]

lemma not_numeral_plus (cs : List Char) (n : Nat) : ¬Numeral ('+' :: cs) n := by
  rintro ⟨-, ds, hall, -⟩
  obtain ⟨d, _, hd, -⟩ := List.forall₂_cons_left_iff.1 hall
  rw [← digitValue?_eq_some_iff] at hd
  exact absurd hd (by simp [Hex.digitValue?])

lemma readNumber_eq_ok_iff (cs : List Char) (n : Nat) :
    readNumber cs = .ok n ↔
      n < 2 ^ 32 ∧ ∃ digits, (cs = digits ∨ cs = '+' :: digits) ∧ Numeral digits n := by
  have hplus : ∀ rest, (∃ digits, ('+' :: rest = digits ∨ '+' :: rest = '+' :: digits) ∧
      Numeral digits n) ↔ Numeral rest n := by
    intro rest
    constructor
    · rintro ⟨digits, rfl | heq, hdigits⟩
      · exact absurd hdigits (not_numeral_plus rest n)
      · obtain rfl := (List.cons.inj heq).2
        exact hdigits
    · exact fun h => ⟨rest, .inr rfl, h⟩
  unfold readNumber
  split
  case h_1 => simp [Numeral]
  case h_2 =>
    rw [hplus]
    simp [Numeral]
  case h_3 rest hrest =>
    rw [hplus]
    exact readDigits_zero_eq_ok_iff (fun hnil => hrest (by rw [hnil])) n
  case h_4 hempty _ hother =>
    rw [readDigits_zero_eq_ok_iff hempty]
    constructor
    · exact fun h => ⟨h.1, cs, .inl rfl, h.2⟩
    · rintro ⟨hn, digits, rfl | heq, hdigits⟩
      · exact ⟨hn, hdigits⟩
      · exact absurd heq (hother digits)

lemma read_eq_ok_iff (raw : List Char) (a : Address) :
    read raw = .ok a ↔ Denotes raw a.toNat := by
  have hnumber := readNumber_eq_ok_iff ((dropMarker (trim raw)).filter (· != '_'))
  have hdenotes : ∀ n, Denotes raw n ↔ ∃ digits,
      ((dropMarker (trim raw)).filter (· != '_') = digits ∨
        (dropMarker (trim raw)).filter (· != '_') = '+' :: digits) ∧ Numeral digits n := by
    intro n
    constructor
    · rintro ⟨t, d, digits, ht, hd, hdigits⟩
      obtain rfl := (trim_eq_iff raw t).2 ht
      obtain rfl := (dropMarker_eq_iff _ d).2 hd
      exact ⟨digits, hdigits⟩
    · rintro ⟨digits, hdigits⟩
      exact ⟨_, _, digits, trims_trim raw, (dropMarker_eq_iff _ _).1 rfl, hdigits⟩
  rw [hdenotes, read]
  cases hread : readNumber ((dropMarker (trim raw)).filter (· != '_')) with
  | error cause =>
    simp only [reduceCtorEq, false_iff]
    intro h
    rw [(hnumber a.toNat).2 ⟨a.isLt, h⟩] at hread
    cases hread
  | ok n =>
    obtain ⟨hn, hdigits⟩ := (hnumber n).1 hread
    simp only [Except.ok.injEq]
    constructor
    · rintro rfl
      rwa [BitVec.toNat_ofNat, Nat.mod_eq_of_lt hn]
    · intro h
      obtain rfl := Except.ok.inj (hread.symm.trans ((hnumber a.toNat).2 ⟨a.isLt, h⟩))
      exact (BitVec.ofNat_toNat 32 a).trans (BitVec.setWidth_eq a)

/-! ### The ways to write a number -/

lemma digitValue?_toUpper (c : Char) : Hex.digitValue? c.toUpper = Hex.digitValue? c := by
  by_cases hlower : 'a' ≤ c ∧ c ≤ 'z'
  · obtain ⟨k, hk, rfl⟩ := exists_eq_ofNat_of_le hlower.1 hlower.2
    simp only [Char.reduceToNat, Nat.reduceSub] at hk
    interval_cases k <;> rfl
  · have hsame : c.toUpper = c := dif_neg hlower
    rw [hsame]

lemma numeral_of_toUpper {cs : List Char} {n : Nat} (h : Numeral (cs.map Char.toUpper) n) :
    Numeral cs n := by
  obtain ⟨hne, ds, hall, rfl⟩ := h
  refine ⟨by simpa using hne, ds, ?_, rfl⟩
  rw [List.forall₂_map_left_iff] at hall
  refine hall.imp fun c d hd => ?_
  rwa [← digitValue?_eq_some_iff, ← digitValue?_toUpper, digitValue?_eq_some_iff]

lemma Numeral.append_digit {cs : List Char} {n d : Nat} (h : Numeral cs n) (hd : d < 16) :
    Numeral (cs ++ [Hex.digit d]) (16 * n + d) := by
  obtain ⟨-, ds, hall, rfl⟩ := h
  have hdigit : IsDigit (Hex.digit d) d :=
    (digitValue?_eq_some_iff _ _).1 (Hex.digitValue?_digit hd)
  refine ⟨by simp, ds ++ [d], List.rel_append hall (.cons hdigit .nil), ?_⟩
  rw [List.reverse_append, List.reverse_singleton, List.singleton_append, Nat.ofDigits_cons]
  ring

lemma numeral_digits (n : Nat) : Numeral (Hex.digits n) n := by
  induction n using Nat.strongRecOn with
  | ind n ih =>
    rw [Hex.digits]
    split
    case isTrue hn =>
      have hdigit := (digitValue?_eq_some_iff _ _).1 (Hex.digitValue?_digit hn)
      exact ⟨by simp, [n], .cons hdigit .nil, by simp⟩
    case isFalse hn =>
      have hlast := (ih (n / 16) (by omega)).append_digit (Nat.mod_lt n (by decide))
      rwa [Nat.div_add_mod] at hlast

lemma Numeral.replicate_zero {cs : List Char} {n : Nat} (h : Numeral cs n) (zeros : Nat) :
    Numeral (List.replicate zeros '0' ++ cs) n := by
  induction zeros with
  | zero => exact h
  | succ zeros ih =>
    obtain ⟨-, ds, hall, rfl⟩ := ih
    refine ⟨by simp [List.replicate_succ], 0 :: ds, .cons (.inl rfl) hall, ?_⟩
    rw [ofDigits_reverse_cons, Nat.zero_mul, Nat.zero_add]

lemma IsDigit.isBlank_eq_false {c : Char} {d : Nat} (h : IsDigit c d) : isBlank c = false := by
  have hd := h.lt
  interval_cases d <;> rcases h with h | h <;> obtain rfl := Option.some.inj h <;> decide

lemma exists_isDigit_of_mem {cs : List Char} {ds : List Nat} (h : List.Forall₂ IsDigit cs ds)
    {c : Char} (hc : c ∈ cs) : ∃ d, IsDigit c d := by
  induction h with
  | nil => cases hc
  | cons hd _ ih =>
    rcases List.mem_cons.1 hc with rfl | hc
    · exact ⟨_, hd⟩
    · exact ih hc

lemma exists_digit_of_mem_digits {n : Nat} {c : Char} (hc : c ∈ Hex.digits n) :
    ∃ d < 16, c = Hex.digit d := by
  induction n using Nat.strongRecOn with
  | ind n ih =>
    rw [Hex.digits] at hc
    split at hc
    case isTrue hn => exact ⟨n, hn, List.mem_singleton.1 hc⟩
    case isFalse hn =>
      rcases List.mem_append.1 hc with hc | hc
      · exact ih (n / 16) (by omega) hc
      · exact ⟨n % 16, Nat.mod_lt n (by decide), List.mem_singleton.1 hc⟩

/-- A number as it may be written: `0x`, `0X` or nothing, and then its digits in either case each,
with zeros in front of them and underscores anywhere among them. -/
structure Spells (marker body : List Char) (n : Nat) : Prop where
  marker_mem : marker ∈ [[], ['0', 'x'], ['0', 'X']]
  exists_zeros : ∃ zeros, (body.filter (· != '_')).map Char.toUpper =
    List.replicate zeros '0' ++ Hex.digits n

namespace Spells

variable {marker body : List Char} {n : Nat} (h : Spells marker body n)

include h

lemma numeral : Numeral (body.filter (· != '_')) n := by
  obtain ⟨zeros, hdigits⟩ := h.exists_zeros
  apply numeral_of_toUpper
  rw [hdigits]
  exact (numeral_digits n).replicate_zero zeros

lemma eq_underscore_or_isDigit {c : Char} (hc : c ∈ body) : c = '_' ∨ ∃ d, IsDigit c d := by
  obtain ⟨-, ds, hall, -⟩ := h.numeral
  by_cases hunder : c = '_'
  · exact .inl hunder
  · exact .inr (exists_isDigit_of_mem hall (List.mem_filter.2 ⟨hc, by simpa using hunder⟩))

lemma isBlank_eq_false {c : Char} (hc : c ∈ marker ++ body) : isBlank c = false := by
  rcases List.mem_append.1 hc with hmarker | hbody
  · have hmem : c = '0' ∨ c = 'x' ∨ c = 'X' := by
      have hone := h.marker_mem
      simp only [List.mem_cons, List.not_mem_nil, or_false] at hone
      rcases hone with rfl | rfl | rfl <;> simp only [List.mem_cons, List.not_mem_nil] at hmarker <;>
        tauto
    rcases hmem with rfl | rfl | rfl <;> decide
  · rcases h.eq_underscore_or_isDigit hbody with rfl | ⟨d, hd⟩
    · decide
    · exact hd.isBlank_eq_false

/-- No digit is an `x`, so digits never look like a marker. -/
lemma unmarked : Unmarked (marker ++ body) body := by
  have hnone : ∀ x : Char, x ≠ '_' → Hex.digitValue? x = none → ¬['0', x] <+: body := by
    rintro x hunder hvalue ⟨rest, rfl⟩
    rcases h.eq_underscore_or_isDigit (c := x) (by simp) with rfl | ⟨d, hd⟩
    · exact hunder rfl
    · rw [← digitValue?_eq_some_iff, hvalue] at hd
      cases hd
  have hmarker := h.marker_mem
  simp only [List.mem_cons, List.not_mem_nil, or_false] at hmarker
  rcases hmarker with rfl | rfl | rfl
  · exact .bare (hnone 'x' (by decide) rfl) (hnone 'X' (by decide) rfl)
  · exact .lower body
  · exact .upper body

lemma denotes {front back : List Char} (hfront : ∀ c ∈ front, isBlank c = true)
    (hback : ∀ c ∈ back, isBlank c = true) : Denotes (front ++ (marker ++ body) ++ back) n := by
  refine ⟨marker ++ body, body, _, ⟨⟨front, back, hfront, hback, rfl⟩, ?_, ?_⟩, h.unmarked,
    .inl rfl, h.numeral⟩
  · exact fun c hc => h.isBlank_eq_false (List.mem_of_mem_head? hc)
  · exact fun c hc => h.isBlank_eq_false (List.mem_of_mem_getLast? hc)

end Spells

lemma spells_padded (width n : Nat) : Spells ['0', 'x'] (Hex.paddedDigits width n) n := by
  have hplain : ∀ c ∈ Hex.paddedDigits width n, c ≠ '_' ∧ c.toUpper = c := by
    intro c hc
    rcases List.mem_append.1 hc with hzero | hdigit
    · rw [List.eq_of_mem_replicate hzero]
      decide
    · obtain ⟨d, hd, rfl⟩ := exists_digit_of_mem_digits hdigit
      interval_cases d <;> decide
  have hfilter : (Hex.paddedDigits width n).filter (· != '_') = Hex.paddedDigits width n :=
    List.filter_eq_self.2 fun c hc => by simpa using (hplain c hc).1
  refine ⟨by simp, width - (Hex.digits n).length, ?_⟩
  rw [hfilter, List.map_congr_left fun c hc => (hplain c hc).2, List.map_id']
  rfl

/-- An address is read from the texts that denote a number of 32 bits, and from no others. So
whatever way a number is written in, with white space around it, it is read as that number, and so
is every address that is printed. -/
theorem read_iff_denotes :
    (∀ (raw : List Char) (a : Address), read raw = .ok a ↔ Denotes raw a.toNat) ∧
    (∀ raw : List Char, (∃ cause, read raw = .error cause) ↔ ¬∃ n < 2 ^ 32, Denotes raw n) ∧
    (∀ (a : Address) (front marker body back : List Char), (∀ c ∈ front, isBlank c = true) →
      (∀ c ∈ back, isBlank c = true) → Spells marker body a.toNat →
        read (front ++ (marker ++ body) ++ back) = .ok a) ∧
    (∀ a : Address, read ("0x" ++ Hex.padded 8 a.toNat).toList = .ok a) := by
  refine ⟨read_eq_ok_iff, ?_, ?_, ?_⟩
  · intro raw
    constructor
    · rintro ⟨cause, hread⟩ ⟨n, hn, hdenotes⟩
      have hok := (read_eq_ok_iff raw (BitVec.ofNat 32 n)).2
        (by rwa [BitVec.toNat_ofNat, Nat.mod_eq_of_lt hn])
      rw [hok] at hread
      cases hread
    · intro hnone
      cases hread : read raw with
      | error cause => exact ⟨cause, rfl⟩
      | ok a => exact absurd ⟨a.toNat, a.isLt, (read_eq_ok_iff raw a).1 hread⟩ hnone
  · intro a front marker body back hfront hback hspells
    exact (read_eq_ok_iff _ a).2 (hspells.denotes hfront hback)
  · intro a
    have hprinted : ("0x" ++ Hex.padded 8 a.toNat).toList =
        [] ++ (['0', 'x'] ++ Hex.paddedDigits 8 a.toNat) ++ [] := by
      simp [Hex.padded]
    rw [hprinted]
    exact (read_eq_ok_iff _ a).2 ((spells_padded 8 a.toNat).denotes (by simp) (by simp))

/-- Eleven digits, most of them zeros, between white space. -/
theorem read_iff_denotes_long :
    Spells ['0', 'X'] ['_', '0', '0', '_', '0', '8', '0', '0', '1', '_', 'f', 'F', 'f', 'c']
        (BitVec.toNat 0x8001FFFC#32) ∧
      read ([' '] ++ (['0', 'X'] ++
        ['_', '0', '0', '_', '0', '8', '0', '0', '1', '_', 'f', 'F', 'f', 'c']) ++ ['\n']) =
          .ok 0x8001FFFC#32 := by
  have hdigits : Hex.digits (BitVec.toNat 0x8001FFFC#32) =
      ['8', '0', '0', '1', 'F', 'F', 'F', 'C'] := by
    simp [Hex.digits, Hex.digit]
  have hspells : Spells ['0', 'X']
      ['_', '0', '0', '_', '0', '8', '0', '0', '1', '_', 'f', 'F', 'f', 'c']
        (BitVec.toNat 0x8001FFFC#32) := by
    refine ⟨by decide, 3, ?_⟩
    rw [hdigits]
    decide
  obtain ⟨-, -, hread, -⟩ := read_iff_denotes
  exact ⟨hspells, hread _ [' '] _ _ ['\n'] (List.forall_mem_singleton.2 rfl)
    (List.forall_mem_singleton.2 rfl) hspells⟩

end AddressText

end ConsoleMemory.Text
