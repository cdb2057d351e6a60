import ConsoleMemory.Image.Access
import Mathlib.Data.Nat.ModEq
import Mathlib.Tactic.Common

/-!
# Bytes of loads and stores

The bytes of a run have places in an image, and an access whose end is an index never stops: it
gathers the bytes at its places, or scatters bytes over them. A run that wraps round the end may meet
itself, and then its last byte for a position counts.
-/

namespace ConsoleMemory

/-- Where the byte numbered `i` is in an image of `n` bytes. -/
def EndRule.place (rule : EndRule) (n i : Nat) : Nat :=
  match rule with
  | .wrap => i % n
  | .stop => i

lemma EndRule.place_of_lt (rule : EndRule) {n i : Nat} (h : i < n) : rule.place n i = i := by
  cases rule with
  | wrap => exact Nat.mod_eq_of_lt h
  | stop => rfl

lemma Width.bytes_le (w : Width) : w.bytes ≤ 4 := by cases w <;> decide

lemma mapM_eq_some_map {α β : Type} {f : α → Option β} {g : α → β} (xs : List α)
    (h : ∀ x ∈ xs, f x = some (g x)) : xs.mapM f = some (xs.map g) := by
  induction xs with
  | nil => rfl
  | cons x rest ih =>
    have hrest := ih fun y hy => h y (List.mem_cons_of_mem x hy)
    simp [h x List.mem_cons_self, hrest]

namespace Image

variable {n : Nat}

/-- The bytes at the places of a run. -/
def gather (img : Image n) (rule : EndRule) (start count : Nat) : List UInt8 :=
  (List.range count).map fun k => img.get (rule.place n (start + k))

/-- A run of bytes put at its places. -/
def scatter (img : Image n) (rule : EndRule) (start : Nat) : List UInt8 → Image n
  | [] => img
  | b :: rest => scatter (img.set (rule.place n start) b) rule (start + 1) rest

/-! ### Accesses without a stop -/

lemma byteAt?_of_lt (img : Image n) {i : Nat} (h : i < n) : img.byteAt? i = some (img.get i) := by
  have hin : i < img.bytes.size := by rwa [img.size_bytes]
  rw [byteAt?, getElem?_pos img.bytes i hin, get, dif_pos h]
  rfl

lemma putAt?_of_lt (img : Image n) {i : Nat} (b : UInt8) (h : i < n) :
    img.putAt? i b = some (img.set i b) := by
  rw [putAt?, img.size_bytes, if_pos h]

lemma ruledAt?_eq [NeZero n] (img : Image n) (rule : EndRule) (i : Nat) :
    img.ruledAt? rule i = some (img.get (rule.place n i)) := by
  cases rule with
  | wrap => exact img.byteAt?_of_lt (Nat.mod_lt i (Nat.pos_of_neZero n))
  | stop => rfl

lemma ruledPut?_eq [NeZero n] (img : Image n) (rule : EndRule) (i : Nat) (b : UInt8) :
    img.ruledPut? rule i b = some (img.set (rule.place n i) b) := by
  cases rule with
  | wrap => exact img.putAt?_of_lt b (Nat.mod_lt i (Nat.pos_of_neZero n))
  | stop => rfl

/-- Inside the image the places of a run are its indices, whatever the end rule. -/
lemma window?_eq (img : Image n) (rule : EndRule) {start count : Nat} (h : start + count ≤ n) :
    img.window? start count = some (img.gather rule start count) := by
  apply mapM_eq_some_map
  intro k hk
  have hlt : start + k < n := by
    have hkc := List.mem_range.1 hk
    omega
  rw [rule.place_of_lt hlt, img.byteAt?_of_lt hlt]

lemma overwrite?_eq (rule : EndRule) (bs : List UInt8) : ∀ (img : Image n) (start : Nat),
    start + bs.length ≤ n → img.overwrite? start bs = some (img.scatter rule start bs) := by
  induction bs with
  | nil =>
    intro img start _
    rfl
  | cons b rest ih =>
    intro img start h
    rw [List.length_cons] at h
    have hlt : start < n := by omega
    rw [overwrite?, img.putAt?_of_lt b hlt, Option.bind_some, ih _ _ (by omega), scatter,
      rule.place_of_lt hlt]

lemma gather?_eq [NeZero n] (img : Image n) (rule : EndRule) (start count : Nat) :
    img.gather? rule start count = some (img.gather rule start count) :=
  mapM_eq_some_map _ fun k _ => img.ruledAt?_eq rule (start + k)

lemma scatter?_eq [NeZero n] (rule : EndRule) (bs : List UInt8) : ∀ (img : Image n)
    (start : Nat), img.scatter? rule start bs = some (img.scatter rule start bs) := by
  induction bs with
  | nil =>
    intro img start
    rfl
  | cons b rest ih =>
    intro img start
    rw [scatter?, img.ruledPut?_eq, Option.bind_some, ih, scatter]

/-- A sum that is an index is the end of its run. -/
lemma runEnd?_of_lt {start count : Nat} (h : start + count < 2 ^ 64) :
    runEnd? start count = some (start + count) := if_pos h

section Accesses

variable [NeZero n] {w : Width} {start : Nat} (hend : start + w.bytes < 2 ^ 64)

include hend

/-- A load whose end is an index gathers the bytes of its value. -/
lemma load?_eq_gather (img : Image n) (rule : EndRule) :
    img.load? rule w start =
      some (Value.ofBytes guestOrder w (img.gather rule start w.bytes)) := by
  rw [load?, runEnd?_of_lt hend, Option.bind_eq_bind, Option.bind_some]
  by_cases h : start + w.bytes ≤ n
  · rw [if_pos h, img.window?_eq rule h]
    rfl
  · rw [if_neg h, img.gather?_eq]
    rfl

/-- A store whose end is an index scatters the bytes of its value. -/
lemma store?_eq_scatter (img : Image n) (rule : EndRule) (v : Value w) :
    img.store? rule start v = some (img.scatter rule start (v.toBytes guestOrder)) := by
  rw [store?, runEnd?_of_lt hend, Option.bind_eq_bind, Option.bind_some]
  by_cases h : start + w.bytes ≤ n
  · rw [if_pos h, overwrite?_eq rule _ img start (by rwa [v.length_toBytes])]
  · rw [if_neg h, scatter?_eq]

lemma load_eq (img : Image n) (rule : EndRule) :
    img.load rule w start = Value.ofBytes guestOrder w (img.gather rule start w.bytes) := by
  rw [load, img.load?_eq_gather hend, Option.getD_some]

lemma store_eq (img : Image n) (rule : EndRule) (v : Value w) :
    img.store rule start v = img.scatter rule start (v.toBytes guestOrder) := by
  rw [store, img.store?_eq_scatter hend, Option.getD_some]

lemma load?_eq (img : Image n) (rule : EndRule) :
    img.load? rule w start = some (img.load rule w start) := by
  rw [img.load_eq hend, img.load?_eq_gather hend]

lemma store?_eq (img : Image n) (rule : EndRule) (v : Value w) :
    img.store? rule start v = some (img.store rule start v) := by
  rw [img.store_eq hend, img.store?_eq_scatter hend]

end Accesses

/-! ### Single bytes -/

/-- A run leaves alone what it does not reach. -/
lemma get_scatter_of_forall_ne (rule : EndRule) (bs : List UInt8) :
    ∀ (img : Image n) (start p : Nat), (∀ i < bs.length, rule.place n (start + i) ≠ p) →
      (img.scatter rule start bs).get p = img.get p := by
  induction bs with
  | nil =>
    intro img start p _
    rfl
  | cons b rest ih =>
    intro img start p hne
    have hfirst : rule.place n start ≠ p := hne 0 (by simp)
    have hrest : ∀ i < rest.length, rule.place n (start + 1 + i) ≠ p := by
      intro i hi
      have h := hne (i + 1) (by simpa using hi)
      rwa [Nat.add_assoc, Nat.add_comm 1 i]
    rw [scatter, ih _ _ _ hrest, get_set, if_neg (fun h => hfirst h.1)]

/-- A position that a run reaches holds the last byte that was put there. -/
lemma get_scatter_of_last (rule : EndRule) (bs : List UInt8) :
    ∀ (img : Image n) (start i : Nat) (hi : i < bs.length), rule.place n (start + i) < n →
      (∀ j < bs.length, i < j → rule.place n (start + j) ≠ rule.place n (start + i)) →
      (img.scatter rule start bs).get (rule.place n (start + i)) = bs[i] := by
  induction bs with
  | nil =>
    intro img start i hi
    simp at hi
  | cons b rest ih =>
    intro img start i hi hplace hlast
    cases i with
    | zero =>
      have hrest : ∀ j < rest.length, rule.place n (start + 1 + j) ≠ rule.place n start := by
        intro j hj
        have h := hlast (j + 1) (by simpa using hj) (Nat.succ_pos j)
        rwa [Nat.add_assoc, Nat.add_comm 1 j]
      have hset : rule.place n start = rule.place n start ∧ rule.place n start < n :=
        ⟨rfl, hplace⟩
      simp only [Nat.add_zero]
      rw [scatter, get_scatter_of_forall_ne rule rest _ _ _ hrest, get_set, if_pos hset]
      rfl
    | succ i =>
      have hshift : ∀ j, start + (j + 1) = start + 1 + j := fun j => by omega
      rw [scatter, hshift i]
      apply ih
      · rw [← hshift]
        exact hplace
      · intro j hj hij
        rw [← hshift, ← hshift]
        exact hlast (j + 1) (by simpa using hj) (by omega)

/-- The positions of a run no longer than the image are all different. -/
lemma place_add_ne (rule : EndRule) {start count i j : Nat} (hcount : count ≤ n) (hi : i < count)
    (hj : j < count) (hij : i ≠ j) : rule.place n (start + i) ≠ rule.place n (start + j) := by
  cases rule with
  | stop =>
    simp only [EndRule.place]
    omega
  | wrap =>
    simp only [EndRule.place]
    intro h
    have hmod : Nat.ModEq n i j := Nat.ModEq.add_left_cancel' start h
    exact hij (Nat.ModEq.eq_of_lt_of_lt hmod (by omega) (by omega))

/-- A patch that fits puts all of its bytes. -/
lemma get_patch_of_le (img : Image n) {start : Nat} {data : ByteArray} (h : start + data.size ≤ n)
    (p : Nat) :
    (img.patch start data).get p =
      if hin : start ≤ p ∧ p < start + data.size then data.get (p - start) (by omega)
      else img.get p := by
  rw [get_patch]
  by_cases hin : start ≤ p ∧ p < start + data.size
  · have hwhole : start ≤ p ∧ p < start + data.size ∧ p < n := by omega
    rw [dif_pos hin, dif_pos hwhole]
  · rw [dif_neg hin, dif_neg (fun hwhole => hin ⟨hwhole.1, hwhole.2.1⟩)]

lemma littleEndian_replicate_zero (count : Nat) :
    littleEndian (List.replicate count (0 : UInt8)) = 0 := by
  induction count with
  | zero => rfl
  | succ count ih =>
    rw [List.replicate_succ, littleEndian, ih]
    rfl

/-- The all-zero image loads zero everywhere. -/
lemma load_zero [NeZero n] (rule : EndRule) {w : Width} {start : Nat}
    (hend : start + w.bytes < 2 ^ 64) : (zero n).load rule w start = 0 := by
  have hgather : (zero n).gather rule start w.bytes = List.replicate w.bytes 0 := by
    simp only [gather, get_zero, List.map_const', List.length_range]
  rw [load_eq hend, hgather, Value.ofBytes, guestOrder, ByteOrder.arrange,
    littleEndian_replicate_zero]
  rfl

end Image

/-- Positions made of an address leave room for a value before the last index. -/
lemma Address.mod_add_bytes_lt (a : Address) (size : Nat) (w : Width) :
    a.toNat % size + w.bytes < 2 ^ 64 := by
  have hw := w.bytes_le
  have hlt := a.isLt
  have hmod := Nat.mod_le a.toNat size
  omega

lemma Address.offset_add_bytes_lt (a : Address) (w : Width) : a.offset + w.bytes < 2 ^ 64 :=
  a.mod_add_bytes_lt pageSize w

end ConsoleMemory
