import ConsoleMemory.Reader
import ConsoleMemory.Proofs.Image

/-!
# What is read from a file

Filling an image from a file lays the bytes the file delivers over it, however the calls split them
and however often they are interrupted. It fails just where a call fails before the image is full,
and then the bytes that came before are in the image all the same.
-/

namespace ConsoleMemory

namespace Image

variable {n : Nat}

/-- Two patches, one right after the other, are one. -/
lemma patch_append (img : Image n) (start : Nat) (first later : ByteArray) :
    (img.patch start first).patch (start + first.size) later = img.patch start (first ++ later) := by
  apply ext_get
  intro p hp
  have hsize : (first ++ later).size = first.size + later.size := ByteArray.size_append
  rw [get_patch, get_patch, get_patch]
  by_cases hlater : start + first.size ≤ p ∧ p < start + first.size + later.size ∧ p < n
  · have hboth : start ≤ p ∧ p < start + (first ++ later).size ∧ p < n := by omega
    rw [dif_pos hlater, dif_pos hboth]
    refine Eq.trans ?_ (ByteArray.getElem_append_right (by omega)).symm
    have hindex : p - (start + first.size) = p - start - first.size := by omega
    exact getElem_congr_idx hindex
  · rw [dif_neg hlater]
    by_cases hfirst : start ≤ p ∧ p < start + first.size ∧ p < n
    · have hboth : start ≤ p ∧ p < start + (first ++ later).size ∧ p < n := by omega
      rw [dif_pos hfirst, dif_pos hboth]
      exact (ByteArray.getElem_append_left (by omega)).symm
    · have hneither : ¬(start ≤ p ∧ p < start + (first ++ later).size ∧ p < n) := by omega
      rw [dif_neg hfirst, dif_neg hneither]

/-- The bytes past the room of an image make no difference to a patch. -/
lemma patch_extract (img : Image n) (start : Nat) (data : ByteArray) :
    img.patch start (data.extract 0 (n - start)) = img.patch start data := by
  apply ext_get
  intro p hp
  have hsize : (data.extract 0 (n - start)).size = min (n - start) data.size - 0 :=
    ByteArray.size_extract
  rw [get_patch, get_patch]
  by_cases hin : start ≤ p ∧ p < start + data.size ∧ p < n
  · have hroom : start ≤ p ∧ p < start + (data.extract 0 (n - start)).size ∧ p < n := by omega
    rw [dif_pos hin, dif_pos hroom]
    refine (ByteArray.getElem_extract _).trans ?_
    exact getElem_congr_idx (Nat.zero_add _)
  · have hout : ¬(start ≤ p ∧ p < start + (data.extract 0 (n - start)).size ∧ p < n) := by omega
    rw [dif_neg hin, dif_neg hout]

/-- A patch that reaches no byte changes nothing. -/
lemma patch_eq_self (img : Image n) {start : Nat} {data : ByteArray}
    (h : ∀ p, ¬(start ≤ p ∧ p < start + data.size ∧ p < n)) : img.patch start data = img := by
  apply ext_get
  intro p hp
  rw [get_patch, dif_neg (h p)]

lemma patch_of_le (img : Image n) {start : Nat} (h : n ≤ start) (data : ByteArray) :
    img.patch start data = img :=
  img.patch_eq_self fun p => by omega

lemma patch_of_size_eq_zero (img : Image n) (start : Nat) {data : ByteArray} (h : data.size = 0) :
    img.patch start data = img :=
  img.patch_eq_self fun p => by omega

/-- What one patch has no room for is lost to the next one as well. -/
lemma patch_min (img : Image n) (start : Nat) (first later : ByteArray) :
    (img.patch start first).patch (min n (start + first.size)) later =
      img.patch start (first ++ later) := by
  rw [← patch_append]
  by_cases hfits : start + first.size ≤ n
  · rw [Nat.min_eq_right hfits]
  · rw [Nat.min_eq_left (Nat.le_of_not_le hfits), patch_of_le _ (Nat.le_refl n),
      patch_of_le _ (Nat.le_of_not_le hfits)]

/-! ### One call -/

lemma readUpTo_of_full (img : Image n) {filled : Nat} (h : n ≤ filled) (reader : Reader) :
    img.readUpTo filled reader = (.ok filled, img) := by
  cases reader with
  | nil => rfl
  | cons result rest =>
    unfold readUpTo
    exact if_pos h

/-- A call that gives bytes lays them over the image, as many as there is room for. -/
lemma readUpTo_bytes (img : Image n) {filled : Nat} (h : filled < n) {chunk : ByteArray}
    (hchunk : chunk.size ≠ 0) (rest : Reader) :
    img.readUpTo filled (.bytes chunk :: rest) =
      (img.patch filled chunk).readUpTo (min n (filled + chunk.size)) rest := by
  have hsize : (chunk.extract 0 (n - filled)).size = min (n - filled) chunk.size :=
    ByteArray.size_extract
  have htaken : ¬min (n - filled) chunk.size = 0 := by omega
  have hnext : filled + min (n - filled) chunk.size = min n (filled + chunk.size) := by omega
  rw [readUpTo, if_neg (Nat.not_le.2 h)]
  dsimp only
  rw [hsize, if_neg htaken, hnext, patch_extract]

lemma readUpTo_end (img : Image n) (filled : Nat) {chunk : ByteArray} (hchunk : chunk.size = 0)
    (rest : Reader) : img.readUpTo filled (.bytes chunk :: rest) = (.ok filled, img) := by
  have htaken : (chunk.extract 0 (n - filled)).size = 0 := by
    rw [ByteArray.size_extract]
    omega
  rw [readUpTo]
  dsimp only
  rw [if_pos htaken, ite_self]

lemma readUpTo_interrupted (img : Image n) (filled : Nat) (rest : Reader) :
    img.readUpTo filled (.interrupted :: rest) = img.readUpTo filled rest := by
  by_cases h : n ≤ filled
  · rw [img.readUpTo_of_full h, img.readUpTo_of_full h]
  · rw [readUpTo, if_neg h]

lemma readUpTo_failed (img : Image n) {filled : Nat} (h : filled < n) (cause : IoFault)
    (rest : Reader) : img.readUpTo filled (.failed cause :: rest) = (.error cause, img) := by
  rw [readUpTo, if_neg (Nat.not_le.2 h)]

/-! ### All calls -/

end Image

/-- What filling a buffer from a position on tells: how far it was filled, or why a call failed
before it was full. -/
def Reader.outcome (reader : Reader) (size filled : Nat) : Except IoFault Nat :=
  if size ≤ filled + reader.delivered.size then .ok size
  else
    match reader.fault? with
    | some cause => .error cause
    | none => .ok (filled + reader.delivered.size)

lemma Reader.outcome_bytes {chunk : ByteArray} (hchunk : chunk.size ≠ 0) (rest : Reader)
    (size filled : Nat) :
    Reader.outcome (.bytes chunk :: rest) size filled =
      Reader.outcome rest size (min size (filled + chunk.size)) := by
  unfold Reader.outcome
  rw [Reader.fault?, Reader.delivered, if_neg hchunk, if_neg hchunk, ByteArray.size_append]
  by_cases hall : size ≤ filled + (chunk.size + (Reader.delivered rest).size)
  · rw [if_pos hall, if_pos (by omega)]
  · have hcount : min size (filled + chunk.size) = filled + chunk.size := by omega
    rw [if_neg hall, if_neg (by omega), hcount, Nat.add_assoc]

/-- By induction on the calls: each of them leaves the rest of the bytes for those after it. -/
theorem Image.readUpTo_eq {n : Nat} (reader : Reader) : ∀ (img : Image n) (filled : Nat),
    filled ≤ n →
      img.readUpTo filled reader =
        (reader.outcome n filled, img.patch filled reader.delivered) := by
  induction reader with
  | nil =>
    intro img filled h
    rw [Reader.delivered, img.patch_of_size_eq_zero _ rfl, Reader.outcome]
    split
    · rename_i hfull
      rw [Nat.le_antisymm h hfull]
      rfl
    · rfl
  | cons result rest ih =>
    intro img filled h
    by_cases hfull : n ≤ filled
    · obtain rfl : filled = n := Nat.le_antisymm h hfull
      rw [img.readUpTo_of_full hfull, img.patch_of_le hfull, Reader.outcome,
        if_pos (Nat.le_add_right _ _)]
    have hroom : filled < n := Nat.not_le.1 hfull
    cases result with
    | bytes chunk =>
      by_cases hchunk : chunk.size = 0
      · rw [img.readUpTo_end _ hchunk, Reader.outcome, Reader.fault?, Reader.delivered,
          if_pos hchunk, if_pos hchunk, img.patch_of_size_eq_zero _ rfl]
        exact congrArg (·, img) (if_neg hfull).symm
      · rw [img.readUpTo_bytes hroom hchunk, ih _ _ (Nat.min_le_left _ _), img.patch_min,
          Reader.outcome_bytes hchunk, Reader.delivered, if_neg hchunk]
    | interrupted =>
      rw [img.readUpTo_interrupted, ih _ _ h]
      rfl
    | failed cause =>
      rw [img.readUpTo_failed hroom, Reader.outcome, Reader.fault?, Reader.delivered,
        img.patch_of_size_eq_zero _ rfl]
      exact congrArg (·, img) (if_neg hfull).symm

namespace Reader

variable {calls : Reader} {size : Nat}

/-- No call fails before a buffer of some size is full or the file is at its end. -/
def Reads (calls : Reader) (size : Nat) : Prop :=
  calls.fault? = none ∨ size ≤ calls.delivered.size

instance (calls : Reader) (size : Nat) : Decidable (calls.Reads size) :=
  inferInstanceAs (Decidable (_ ∨ _))

lemma reads_or_fails (calls : Reader) (size : Nat) :
    calls.Reads size ∨ ∃ cause, calls.fault? = some cause ∧ calls.delivered.size < size := by
  unfold Reads
  cases hfault : calls.fault? with
  | none => exact .inl (.inl rfl)
  | some cause =>
    by_cases hfull : size ≤ calls.delivered.size
    · exact .inl (.inr hfull)
    · exact .inr ⟨cause, rfl, Nat.not_le.1 hfull⟩

lemma not_reads {cause : IoFault} (hfault : calls.fault? = some cause)
    (hshort : calls.delivered.size < size) : ¬calls.Reads size := by
  rintro (hnone | hfull)
  · rw [hfault] at hnone
    cases hnone
  · exact Nat.not_le.2 hshort hfull

lemma outcome_of_reads (h : calls.Reads size) :
    calls.outcome size 0 = .ok (min size calls.delivered.size) := by
  rw [outcome, Nat.zero_add]
  by_cases hfull : size ≤ calls.delivered.size
  · rw [if_pos hfull, Nat.min_eq_left hfull]
  · have hnone : calls.fault? = none := h.resolve_right hfull
    rw [if_neg hfull, hnone, Nat.min_eq_right (Nat.le_of_not_le hfull)]

lemma outcome_of_fails {cause : IoFault} (hfault : calls.fault? = some cause)
    (hshort : calls.delivered.size < size) : calls.outcome size 0 = .error cause := by
  rw [outcome, Nat.zero_add, if_neg (Nat.not_le.2 hshort), hfault]

lemma delivered_ofBytes (bytes : ByteArray) : (ofBytes bytes).delivered = bytes := by
  rw [ofBytes, delivered, delivered, ByteArray.append_empty]
  split
  · rename_i hempty
    exact (ByteArray.size_eq_zero_iff.1 hempty).symm
  · rfl

lemma contents_ofBytes (bytes : ByteArray) : (ofBytes bytes).contents = .ok bytes := by
  have hfault : (ofBytes bytes).fault? = none := by
    rw [ofBytes, fault?]
    exact ite_self none
  rw [contents, hfault, delivered_ofBytes]

end Reader

end ConsoleMemory
