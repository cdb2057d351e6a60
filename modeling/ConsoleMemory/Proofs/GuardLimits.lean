import ConsoleMemory.Proofs.RamCalls

/-!
# Offsets at the limits of their type

The guard window test adds the length of an access to its offset, and the sum is a 64-bit integer.
As long as the end of the access is one too, the test is right over the integers, no sum and no index
is out of range, and both ways of keeping RAM answer alike. For an access whose end is past the
largest offset the test gives no answer: the sum stops it, in both ways of keeping RAM.
-/

namespace ConsoleMemory

/-- The end of an access is past the largest offset. -/
def EndWraps (offset : Int64) (count : Nat) : Prop := 2 ^ 63 ≤ offset.toInt + count

instance (offset : Int64) (count : Nat) : Decidable (EndWraps offset count) :=
  inferInstanceAs (Decidable (_ ≤ _))

namespace RamCall

/-- Offset and length of a guarded access. -/
def span? : RamCall → Option (Int64 × Nat)
  | .write _ offset data => some (offset, data.length)
  | .read _ offset out => some (offset, out.length)
  | .copy .. | .view _ | .clear => none

/-- The calls with a span are guarded writes and reads of its length. -/
lemma guarded_of_span {next : RamCall} {offset : Int64} {count : Nat}
    (hspan : next.span? = some (offset, count)) :
    (∃ s data, next = .write s offset data ∧ count = data.length) ∨
      ∃ s out, next = .read s offset out ∧ count = out.length := by
  cases next with
  | write s offset data =>
    obtain ⟨rfl, rfl⟩ := Prod.mk.inj (Option.some.inj hspan)
    exact .inl ⟨s, data, rfl, rfl⟩
  | read s offset out =>
    obtain ⟨rfl, rfl⟩ := Prod.mk.inj (Option.some.inj hspan)
    exact .inr ⟨s, out, rfl, rfl⟩
  | copy | view | clear => cases hspan

end RamCall

/-- What a guarded access is on an array of 2 MB that serves it wherever it lies. -/
def FlatRam.serve (cells : Nat → UInt8) : RamCall → RamAnswer × (Nat → UInt8)
  | .write _ offset data =>
    (.written true, fun p =>
      match lastIndex? (place offset) p data.length with
      | some i => data.getD i 0
      | none => cells p)
  | .read _ offset out =>
    (.filled true ((List.range out.length).map fun i => cells (place offset i)), cells)
  | next => call cells next

/-! ### The window test -/

namespace Ram

section Sums

variable {offset : Int64} {count : Nat}

lemma addOffset?_eq_none_iff : addOffset? offset count = none ↔ EndWraps offset count := by
  unfold addOffset? EndWraps
  split <;> simp_all

/-- The sums on the way to an end that is an offset are offsets too. -/
lemma exists_addOffset?_eq_some (h : ¬EndWraps offset count) {i : Nat} (hi : i ≤ count) :
    ∃ position, addOffset? offset i = some position ∧ position.toInt = offset.toInt + i := by
  have hfit : offset.toInt + i < 2 ^ 63 := by
    rw [EndWraps] at h
    omega
  exact ⟨_, addOffset?_of_lt hfit, toInt_add_ofNat offset i hfit⟩

/-- An access that starts below the guards and ends past the largest offset would be longer than a
buffer can be, so the test comes to the sum. -/
lemma inGuardWindow?_of_endWraps (h : EndWraps offset count) (hcount : count < 2 ^ 63) :
    inGuardWindow? offset count = none := by
  have hstart : -Int64.ofNat guardSize ≤ offset := by
    have hlow : (-Int64.ofNat guardSize).toInt = -65536 := by decide
    rw [EndWraps] at h
    rw [Int64.le_iff_toInt_le, hlow]
    omega
  rw [inGuardWindow?, if_pos hstart, addOffset?_eq_none_iff.2 h, Option.map_none]

/-- The guard window test gives no answer just where the end of the access is past the largest
offset. -/
lemma inGuardWindow?_eq_none_iff (hcount : count < 2 ^ 63) :
    inGuardWindow? offset count = none ↔ EndWraps offset count := by
  refine ⟨fun hnone => ?_, fun hwraps => inGuardWindow?_of_endWraps hwraps hcount⟩
  by_contra hend
  rw [inGuardWindow?_eq offset count (not_le.1 hend)] at hnone
  cases hnone

lemma inGuardWindow?_of_not_endWraps (h : ¬EndWraps offset count) :
    inGuardWindow? offset count = some (decide (FlatRam.Inside offset count)) :=
  inGuardWindow?_eq offset count (not_le.1 h)

end Sums

/-! ### Both ways of keeping RAM -/

section Spans

variable {next : RamCall} {offset : Int64} {count : Nat}

lemma admissible_of_span (hspan : next.span? = some (offset, count))
    (h : ¬EndWraps offset count) : next.Admissible := by
  obtain ⟨s, data, rfl, rfl⟩ | ⟨s, out, rfl, rfl⟩ := RamCall.guarded_of_span hspan
  · exact not_le.1 h
  · exact not_le.1 h

lemma flat_call_eq_serve (hspan : next.span? = some (offset, count)) (cells : Nat → UInt8) :
    FlatRam.call cells next =
      if FlatRam.Inside offset count then FlatRam.serve cells next else (next.refused, cells) := by
  obtain ⟨s, data, rfl, rfl⟩ | ⟨s, out, rfl, rfl⟩ := RamCall.guarded_of_span hspan
  · rfl
  · rfl

/-- Outside the window a guarded access is refused and RAM is the same, also in the way it is kept. -/
lemma call?_of_not_inside (ram : Ram) (hspan : next.span? = some (offset, count))
    (hend : ¬EndWraps offset count) (hout : ¬FlatRam.Inside offset count) :
    ram.call? next = some (next.refused, ram) := by
  have hfit : offset.toInt + count < 2 ^ 63 := not_le.1 hend
  obtain ⟨s, data, rfl, rfl⟩ | ⟨s, out, rfl, rfl⟩ := RamCall.guarded_of_span hspan
  · rw [ram.call?_write s offset data hfit, if_neg hout]
    rfl
  · rw [ram.call?_read s offset out hfit, if_neg hout]
    rfl

/-- A guarded access stops with the window test, before RAM is looked at. -/
lemma call?_of_endWraps (ram : Ram) (hspan : next.span? = some (offset, count))
    (hcount : count < 2 ^ 63) (hwraps : EndWraps offset count) : ram.call? next = none := by
  have hstop := inGuardWindow?_of_endWraps hwraps hcount
  obtain ⟨s, data, rfl, rfl⟩ | ⟨s, out, rfl, rfl⟩ := RamCall.guarded_of_span hspan
  · rw [call?, writeGuarded?, hstop]
    rfl
  · rw [call?, readGuarded?, hstop]
    rfl

/-- A guarded access whose end is an offset is tested rightly over the integers, and neither a sum
nor an index stops it: in both ways of keeping RAM it is served as on an array inside the window, and
refused outside with RAM and the buffer of a read untouched. The window test gives no answer just
where the end is past the largest offset, and there the access stops in both ways of keeping RAM. -/
theorem guarded_access_at_limits (hspan : next.span? = some (offset, count))
    (hcount : count < 2 ^ 63) :
    (inGuardWindow? offset count = none ↔ EndWraps offset count) ∧
    (¬EndWraps offset count →
      inGuardWindow? offset count = some (decide (FlatRam.Inside offset count)) ∧
      (∀ i ≤ count,
        ∃ position, addOffset? offset i = some position ∧ position.toInt = offset.toInt + i) ∧
      ∀ ram : Ram,
        (ram.call? next).map (Prod.map id cells) =
          some (if FlatRam.Inside offset count then FlatRam.serve ram.cells next
            else (next.refused, ram.cells)) ∧
        (¬FlatRam.Inside offset count → ram.call? next = some (next.refused, ram))) ∧
    (EndWraps offset count → ∀ ram : Ram, ram.call? next = none) := by
  refine ⟨inGuardWindow?_eq_none_iff hcount, fun hend => ?_, fun hwraps ram => ?_⟩
  · refine ⟨inGuardWindow?_of_not_endWraps hend, fun i hi => exists_addOffset?_eq_some hend hi,
      fun ram => ⟨?_, fun hout => ram.call?_of_not_inside hspan hend hout⟩⟩
    rw [ram.call?_cells (admissible_of_span hspan hend), flat_call_eq_serve hspan]
  · exact ram.call?_of_endWraps hspan hcount hwraps

end Spans

/-- A byte whose end is the largest offset is refused, and RAM is as before. -/
theorem guarded_access_at_limits_last_end :
    let offset : Int64 := 0x7FFFFFFFFFFFFFFE
    let next : RamCall := .write .kseg0 offset [1]
    next.span? = some (offset, 1) ∧ 1 < 2 ^ 63 ∧ ¬EndWraps offset 1 ∧
      ∀ ram : Ram, ram.call? next = some (.written false, ram) := by
  intro offset next
  have hspan : next.span? = some (offset, 1) := rfl
  have hend : ¬EndWraps offset 1 := by decide
  have hout : ¬FlatRam.Inside offset 1 := by decide
  obtain ⟨-, hexact, -⟩ := guarded_access_at_limits hspan (by decide)
  obtain ⟨-, -, hcalls⟩ := hexact hend
  exact ⟨hspan, by decide, hend, fun ram => (hcalls ram).2 hout⟩

/-- One byte further the end is past the largest offset, and the access is not refused: it stops, in
both ways of keeping RAM. -/
theorem guarded_access_past_last_offset :
    let offset : Int64 := 0x7FFFFFFFFFFFFFFF
    let next : RamCall := .read .kuseg offset [0xEE]
    let image := Image.zero ramSize
    ¬FlatRam.Inside offset 1 ∧ inGuardWindow? offset 1 ≠ some false ∧
      (table image).call? next = none ∧ (aliased image).call? next = none := by
  intro offset next image
  have hspan : next.span? = some (offset, 1) := rfl
  have hwraps : EndWraps offset 1 := by decide
  have hstop := inGuardWindow?_of_endWraps hwraps (by decide)
  refine ⟨by decide, ?_, ?_, ?_⟩
  · rw [hstop]
    exact (Option.some_ne_none false).symm
  · exact (table image).call?_of_endWraps hspan (by decide) hwraps
  · exact (aliased image).call?_of_endWraps hspan (by decide) hwraps

end Ram

end ConsoleMemory
