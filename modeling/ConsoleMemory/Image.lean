/-!
# Byte images

An image is a byte buffer of a fixed size. It is read through `get`, which is zero past the end, and
changed by `set`, which drops a byte past the end, so both are total. Two images of one size with
the same bytes are equal (`ext_get`).
-/

namespace ConsoleMemory

/-- A buffer of exactly `n` bytes. -/
structure Image (n : Nat) where
  bytes : ByteArray
  size_bytes : bytes.size = n

namespace Image

variable {n : Nat}

private theorem size_setByte (bs : ByteArray) (i : Nat) (b : UInt8) (h : i < bs.size) :
    (bs.set i b h).size = bs.size := by
  obtain ⟨data⟩ := bs
  exact Array.size_set h

/-- The all-zero image. -/
def zero (n : Nat) : Image n where
  bytes := ⟨Array.replicate n 0⟩
  size_bytes := by simp [ByteArray.size]

/-- The byte at a position, zero past the end. -/
def get (img : Image n) (i : Nat) : UInt8 :=
  if h : i < n then img.bytes.get i (by rw [img.size_bytes]; exact h) else 0

/-- Puts a byte at a position; past the end it is dropped. -/
def set (img : Image n) (i : Nat) (b : UInt8) : Image n :=
  if h : i < n then
    { bytes := img.bytes.set i b (by rw [img.size_bytes]; exact h)
      size_bytes := (size_setByte img.bytes i b _).trans img.size_bytes }
  else img

theorem get_of_le {img : Image n} {i : Nat} (h : n ≤ i) : img.get i = 0 := by
  rw [get, dif_neg (Nat.not_lt.2 h)]

@[simp]
theorem get_zero (i : Nat) : (zero n).get i = 0 := by
  by_cases h : i < n
  · rw [get, dif_pos h]
    exact Array.getElem_replicate _
  · exact get_of_le (Nat.not_lt.1 h)

theorem get_set (img : Image n) (i : Nat) (b : UInt8) (j : Nat) :
    (img.set i b).get j = if i = j ∧ i < n then b else img.get j := by
  by_cases hi : i < n
  · by_cases hj : j < n
    · rw [get, dif_pos hj, get, dif_pos hj, set, dif_pos hi]
      by_cases heq : i = j
      · subst heq
        rw [if_pos ⟨rfl, hi⟩]
        exact Array.getElem_set_self _
      · rw [if_neg (fun h => heq h.1)]
        exact Array.getElem_set_ne _ _ heq
    · have hne : i ≠ j := by omega
      have hout := Nat.not_lt.1 hj
      rw [get_of_le hout, get_of_le hout, if_neg (fun h => hne h.1)]
  · rw [set, dif_neg hi, if_neg (fun h => hi h.2)]

/-- Images with the same bytes are equal. -/
theorem ext_get {a b : Image n} (h : ∀ i, i < n → a.get i = b.get i) : a = b := by
  obtain ⟨ab, ha⟩ := a
  obtain ⟨bb, hb⟩ := b
  have hbytes : ab = bb := by
    apply ByteArray.ext_getElem (ha.trans hb.symm)
    intro i hia hib
    have hin : i < n := ha ▸ hia
    have hi := h i hin
    unfold get at hi
    rw [dif_pos hin, dif_pos hin] at hi
    exact hi
  subst hbytes
  rfl

/-- Puts a run of bytes from a position on; bytes past the end are dropped. -/
def patch (img : Image n) (start : Nat) (data : ByteArray) : Image n :=
  data.size.fold (fun i h img => img.set (start + i) (data.get i h)) img

private theorem get_fold_set (data : ByteArray) (start j : Nat) (img : Image n) :
    ∀ (count : Nat) (hcount : count ≤ data.size),
      (count.fold (fun i h (img : Image n) =>
          img.set (start + i) (data.get i (Nat.lt_of_lt_of_le h hcount))) img).get j =
        if h : start ≤ j ∧ j < start + count ∧ j < n then
          data.get (j - start) (by omega)
        else img.get j := by
  intro count
  induction count with
  | zero =>
    intro _
    have hno : ¬(start ≤ j ∧ j < start + 0 ∧ j < n) := by omega
    rw [Nat.fold_zero, dif_neg hno]
  | succ count ih =>
    intro hcount
    rw [Nat.fold_succ, get_set, ih (by omega)]
    by_cases hj : start + count = j ∧ start + count < n
    · obtain ⟨rfl, hn⟩ := hj
      have hin :
          start ≤ start + count ∧ start + count < start + (count + 1) ∧ start + count < n := by
        omega
      have hbyte : ∀ (k : Nat) (hk : k < data.size), k = count →
          data.get count (by omega) = data.get k hk := by
        rintro k hk rfl
        rfl
      rw [if_pos ⟨rfl, hn⟩, dif_pos hin]
      exact hbyte _ _ (by omega)
    · rw [if_neg hj]
      by_cases hold : start ≤ j ∧ j < start + count ∧ j < n
      · have hnew : start ≤ j ∧ j < start + (count + 1) ∧ j < n := by omega
        rw [dif_pos hold, dif_pos hnew]
      · have hnew : ¬(start ≤ j ∧ j < start + (count + 1) ∧ j < n) := by omega
        rw [dif_neg hold, dif_neg hnew]

/-- After a patch the run holds the data and every other byte is unchanged. -/
theorem get_patch (img : Image n) (start : Nat) (data : ByteArray) (j : Nat) :
    (img.patch start data).get j =
      if h : start ≤ j ∧ j < start + data.size ∧ j < n then data.get (j - start) (by omega)
      else img.get j :=
  get_fold_set data start j img data.size (Nat.le_refl _)

end Image

end ConsoleMemory
