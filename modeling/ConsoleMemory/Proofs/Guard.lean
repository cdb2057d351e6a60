import ConsoleMemory.Ram
import ConsoleMemory.Proofs.Image

/-!
# Guarded accesses

Both ways of keeping RAM answer a guarded access alike: inside the guard window it is a run of bytes
of the 2 MB image that wraps round its ends, outside it is refused. As long as the end of the access
is an offset too, neither a sum nor an index stops it.
-/

namespace ConsoleMemory

lemma toInt_add_ofNat_eq_bmod (x : Int64) (k : Nat) :
    (x + Int64.ofNat k).toInt = (x.toInt + k).bmod (2 ^ 64) := by
  rw [Int64.toInt_add, Int64.toInt_ofNat', Int64.size, Int.add_bmod_bmod]
  rfl

lemma toInt_add_ofNat (x : Int64) (k : Nat) (h : x.toInt + k < 2 ^ 63) :
    (x + Int64.ofNat k).toInt = x.toInt + k := by
  have hlow := x.le_toInt
  rw [toInt_add_ofNat_eq_bmod]
  exact Int.bmod_eq_of_le (by omega) (by omega)

namespace Ram

lemma addOffset?_of_lt {offset : Int64} {count : Nat} (h : offset.toInt + count < 2 ^ 63) :
    addOffset? offset count = some (offset + Int64.ofNat count) :=
  if_pos h

/-- The guard window over the integers. -/
lemma inGuardWindow?_eq (offset : Int64) (count : Nat) (h : offset.toInt + count < 2 ^ 63) :
    inGuardWindow? offset count =
      some (decide
        (-(guardSize : Int) ≤ offset.toInt ∧ offset.toInt + count ≤ ramSize + guardSize)) := by
  have hlow : -Int64.ofNat guardSize ≤ offset ↔ -(guardSize : Int) ≤ offset.toInt := by
    have hguard : (-Int64.ofNat guardSize).toInt = -(guardSize : Int) := by decide
    rw [Int64.le_iff_toInt_le, hguard]
  have hhigh : offset + Int64.ofNat count ≤ Int64.ofNat (ramSize + guardSize) ↔
      offset.toInt + count ≤ ramSize + guardSize := by
    have hstop : (Int64.ofNat (ramSize + guardSize)).toInt = (ramSize : Int) + guardSize := by
      decide
    rw [Int64.le_iff_toInt_le, hstop, toInt_add_ofNat offset count h]
  unfold inGuardWindow?
  by_cases hstart : -(guardSize : Int) ≤ offset.toInt
  · rw [if_pos (hlow.2 hstart), addOffset?_of_lt h, Option.map_some]
    exact congrArg some (decide_eq_decide.2 (hhigh.trans (and_iff_right hstart).symm))
  · have hout : ¬(-(guardSize : Int) ≤ offset.toInt ∧
        offset.toInt + count ≤ ramSize + guardSize) := fun hin => hstart hin.1
    rw [if_neg (fun hin => hstart (hlow.1 hin)), decide_eq_false hout]

lemma view_modify (ram : Ram) (s t : Segment) (change : Image ramSize → Image ramSize) :
    (ram.modify s change).view t = change (ram.view t) := by
  cases ram <;> rfl

lemma name_modify (ram : Ram) (s : Segment) (change : Image ramSize → Image ramSize) :
    (ram.modify s change).name = ram.name := by
  cases ram <;> rfl

lemma view_congr (ram : Ram) (s t : Segment) : ram.view s = ram.view t := by
  cases ram <;> rfl

lemma modify_congr (ram : Ram) (s t : Segment) (change : Image ramSize → Image ramSize) :
    ram.modify s change = ram.modify t change := by
  cases ram <;> rfl

lemma modify_view (ram : Ram) (s : Segment) (change : Image ramSize → Image ramSize) :
    ram.modify s (fun _ => change (ram.view s)) = ram.modify s change := by
  cases ram <;> rfl

lemma modify_modify (ram : Ram) (s : Segment) (f g : Image ramSize → Image ramSize) :
    (ram.modify s f).modify s g = ram.modify s fun image => g (f image) := by
  cases ram <;> rfl

lemma wrapOffset_lt (position : Int64) : wrapOffset position < ramSize := by
  rw [wrapOffset, ramSize]
  omega

section Window

variable {position : Int64} (hlow : -(guardSize : Int) ≤ position.toInt)
  (hhigh : position.toInt < ramSize + guardSize)

include hlow hhigh

/-- The mappings route a position of the window to the byte it wraps to. -/
lemma route_wrapOffset (s : Segment) :
    (MappedView.route s position).2 < (MappedView.route s position).1.length ∧
      (MappedView.route s position).1.start + (MappedView.route s position).2 =
        wrapOffset position := by
  simp only [guardSize, ramSize] at hlow hhigh
  unfold MappedView.route wrapOffset
  simp only [ramSize, guardSize]
  split
  · simp only [MappedView.length, MappedView.start, ramSize, guardSize]
    omega
  · split
    · simp only [MappedView.length, MappedView.start, guardSize]
      omega
    · simp only [MappedView.length, MappedView.start, ramSize]
      omega

lemma guardByte?_eq (ram : Ram) (s : Segment) :
    ram.guardByte? s position = some ((ram.view s).get (wrapOffset position)) := by
  obtain ⟨hlt, hstart⟩ := route_wrapOffset hlow hhigh s
  have hwrap := wrapOffset_lt position
  cases ram with
  | table buffer => exact buffer.byteAt?_of_lt hwrap
  | aliased file =>
    have hbelow : ¬position.toInt + guardSize < 0 := by omega
    simp only [guardByte?, view]
    rw [if_neg hbelow, MappedView.byteAt?, if_pos hlt, hstart, file.byteAt?_of_lt hwrap]

lemma setGuardByte?_eq (ram : Ram) (s : Segment) (b : UInt8) :
    ram.setGuardByte? s position b =
      some (ram.modify s fun image => image.set (wrapOffset position) b) := by
  obtain ⟨hlt, hstart⟩ := route_wrapOffset hlow hhigh s
  have hwrap := wrapOffset_lt position
  cases ram with
  | table buffer =>
    rw [setGuardByte?, buffer.putAt?_of_lt b hwrap]
    rfl
  | aliased file =>
    have hbelow : ¬position.toInt + guardSize < 0 := by omega
    simp only [setGuardByte?]
    rw [if_neg hbelow, MappedView.putAt?, if_pos hlt, hstart, file.putAt?_of_lt b hwrap]
    rfl

end Window

lemma wrapOffset_add (position : Int64) (k : Nat) :
    wrapOffset (position + Int64.ofNat k) = (wrapOffset position + k) % ramSize := by
  -- also where the sum wraps, as the size of RAM divides 2 ^ 64
  have hmod : (position.toInt + k).bmod (2 ^ 64) % ramSize = (position.toInt + k) % ramSize := by
    rw [Int.bmod_def, ramSize]
    split <;> omega
  rw [wrapOffset, wrapOffset, toInt_add_ofNat_eq_bmod, hmod, ramSize]
  omega

/-- The places of a run from an offset on are the places of its wrapped start. -/
lemma place_wrapOffset (offset : Int64) (k : Nat) :
    EndRule.place .wrap ramSize (wrapOffset offset + k) = wrapOffset (offset + Int64.ofNat k) :=
  (wrapOffset_add offset k).symm

section Runs

variable {offset : Int64} {count : Nat} (hlow : -(guardSize : Int) ≤ offset.toInt)

include hlow

lemma mapM_guardByte?_eq (ram : Ram) (s : Segment)
    (hhigh : offset.toInt + count ≤ ramSize + guardSize) :
    ((List.range count).mapM fun i => do ram.guardByte? s (← addOffset? offset i)) =
      some ((ram.view s).gather .wrap (wrapOffset offset) count) := by
  apply mapM_eq_some_map
  intro i hi
  have hlt : i < count := List.mem_range.1 hi
  have hfit : offset.toInt + i < 2 ^ 63 := by
    simp only [ramSize, guardSize] at hhigh
    omega
  have hadd := toInt_add_ofNat offset i hfit
  rw [addOffset?_of_lt hfit, Option.bind_eq_bind, Option.bind_some,
    guardByte?_eq (by omega) (by omega), place_wrapOffset]

/-- By induction on the bytes: the window that holds the whole run holds what is left of it. -/
lemma setGuardBytes?_eq (s : Segment) (data : List UInt8) : ∀ (ram : Ram) (count : Nat),
    offset.toInt + count + data.length ≤ ramSize + guardSize →
      ram.setGuardBytes? s offset count data =
        some (ram.modify s fun image => image.scatter .wrap (wrapOffset offset + count) data) := by
  induction data with
  | nil =>
    intro ram count _
    cases ram <;> rfl
  | cons b rest ih =>
    intro ram count hhigh
    rw [List.length_cons] at hhigh
    have hfit : offset.toInt + count < 2 ^ 63 := by
      simp only [ramSize, guardSize] at hhigh
      omega
    have hadd := toInt_add_ofNat offset count hfit
    rw [setGuardBytes?, addOffset?_of_lt hfit, Option.bind_eq_bind, Option.bind_some,
      setGuardByte?_eq (by omega) (by omega), Option.bind_eq_bind, Option.bind_some,
      ih _ _ (by omega), modify_modify]
    simp only [Image.scatter, place_wrapOffset, Nat.add_assoc]

end Runs

/-- A guarded read gathers bytes of the image, or is refused. -/
theorem readGuarded?_eq (ram : Ram) (s : Segment) (offset : Int64) (count : Nat)
    (h : offset.toInt + count < 2 ^ 63) :
    ram.readGuarded? s offset count =
      some (if -(guardSize : Int) ≤ offset.toInt ∧ offset.toInt + count ≤ ramSize + guardSize then
        some ((ram.view s).gather .wrap (wrapOffset offset) count)
      else none) := by
  unfold readGuarded?
  rw [inGuardWindow?_eq offset count h, Option.bind_eq_bind, Option.bind_some]
  by_cases hin : -(guardSize : Int) ≤ offset.toInt ∧ offset.toInt + count ≤ ramSize + guardSize
  · rw [if_pos hin, if_pos (decide_eq_true hin), mapM_guardByte?_eq hin.1 ram s hin.2]
    rfl
  · rw [if_neg hin, decide_eq_false hin]
    rfl

/-- A guarded write scatters bytes over the image, or is refused. -/
theorem writeGuarded?_eq (ram : Ram) (s : Segment) (offset : Int64) (data : List UInt8)
    (h : offset.toInt + data.length < 2 ^ 63) :
    ram.writeGuarded? s offset data =
      some (if -(guardSize : Int) ≤ offset.toInt ∧
          offset.toInt + data.length ≤ ramSize + guardSize then
        some (ram.modify s fun image => image.scatter .wrap (wrapOffset offset) data)
      else none) := by
  unfold writeGuarded?
  rw [inGuardWindow?_eq offset _ h, Option.bind_eq_bind, Option.bind_some]
  by_cases hin : -(guardSize : Int) ≤ offset.toInt ∧
      offset.toInt + data.length ≤ ramSize + guardSize
  · rw [if_pos hin, if_pos (decide_eq_true hin), setGuardBytes?_eq hin.1 s data ram 0 (by omega)]
    rfl
  · rw [if_neg hin, decide_eq_false hin]
    rfl

end Ram

end ConsoleMemory
