import ConsoleMemory.Proofs.Guard

/-!
# RAM as one array

Both ways of keeping RAM answer every run of calls as an array of 2 MB does: copies through a
segment, guarded writes and reads at offsets from a segment, views and clears. A guarded access may
be longer than RAM, and then a position holds the last of the bytes that were put there.
-/

namespace ConsoleMemory

/-- The last of the first `count` indices that is placed at `p`. -/
def lastIndex? (place : Nat → Nat) (p : Nat) : Nat → Option Nat
  | 0 => none
  | count + 1 => if place count = p then some count else lastIndex? place p count

section LastIndex

variable {place : Nat → Nat} {p count : Nat}

lemma lastIndex?_eq_some_iff {i : Nat} :
    lastIndex? place p count = some i ↔
      i < count ∧ place i = p ∧ ∀ j < count, i < j → place j ≠ p := by
  induction count with
  | zero => simp [lastIndex?]
  | succ count ih =>
    rw [lastIndex?]
    by_cases hlast : place count = p
    · rw [if_pos hlast]
      constructor
      · intro h
        obtain rfl := Option.some.inj h
        exact ⟨Nat.lt_succ_self _, hlast, fun j hj hij => by omega⟩
      · rintro ⟨hi, -, hno⟩
        by_contra hne
        have hlt : i < count := by
          have hneq : i ≠ count := fun heq => hne (congrArg some heq.symm)
          omega
        exact hno count (Nat.lt_succ_self _) hlt hlast
    · rw [if_neg hlast, ih]
      constructor
      · rintro ⟨hi, hplace, hno⟩
        refine ⟨by omega, hplace, fun j hj hij => ?_⟩
        by_cases hend : j = count
        · rwa [hend]
        · exact hno j (by omega) hij
      · rintro ⟨hi, hplace, hno⟩
        have hend : i ≠ count := by
          rintro rfl
          exact hlast hplace
        exact ⟨by omega, hplace, fun j hj hij => hno j (by omega) hij⟩

lemma lastIndex?_eq_none_iff : lastIndex? place p count = none ↔ ∀ i < count, place i ≠ p := by
  induction count with
  | zero => simp [lastIndex?]
  | succ count ih =>
    rw [lastIndex?, Nat.forall_lt_succ_right]
    by_cases hlast : place count = p
    · simp [hlast]
    · rw [if_neg hlast, ih, and_iff_left hlast]

end LastIndex

/-- A wrapping run puts the last byte that comes to a position there. -/
lemma Image.get_scatter_wrap {n : Nat} [NeZero n] (img : Image n) (start : Nat) (bs : List UInt8)
    (p : Nat) :
    (img.scatter .wrap start bs).get p =
      match lastIndex? (fun i => (start + i) % n) p bs.length with
      | some i => bs.getD i 0
      | none => img.get p := by
  cases hlast : lastIndex? (fun i => (start + i) % n) p bs.length with
  | none => exact get_scatter_of_forall_ne .wrap bs img start p (lastIndex?_eq_none_iff.1 hlast)
  | some i =>
    obtain ⟨hi, rfl, hno⟩ := lastIndex?_eq_some_iff.1 hlast
    have hinside : EndRule.place .wrap n (start + i) < n := Nat.mod_lt _ (Nat.pos_of_neZero n)
    have hbyte : bs.getD i 0 = bs[i] := by
      rw [List.getD_eq_getElem?_getD, List.getElem?_eq_getElem hi, Option.getD_some]
    dsimp only
    rw [hbyte]
    exact get_scatter_of_last .wrap bs img start i hi hinside hno

/-! ### Calls -/

/-- A call of RAM. A read brings the buffer it is to fill. -/
inductive RamCall where
  | copy (s : Segment) (start : Nat) (data : ByteArray)
  | write (s : Segment) (offset : Int64) (data : List UInt8)
  | read (s : Segment) (offset : Int64) (out : List UInt8)
  | view (s : Segment)
  | clear

/-- What a call returns: for a read whether it was done and the buffer afterwards. -/
inductive RamAnswer where
  | nothing
  | written (done : Bool)
  | filled (done : Bool) (out : List UInt8)
  | shown (bytes : Nat → UInt8)

/-- A copy stays inside RAM, and the end of a guarded access is a 64-bit offset. -/
def RamCall.Admissible : RamCall → Prop
  | .copy _ start data => start + data.size ≤ ramSize
  | .write _ offset data => offset.toInt + data.length < 2 ^ 63
  | .read _ offset out => offset.toInt + out.length < 2 ^ 63
  | .view _ | .clear => True

instance : (next : RamCall) → Decidable next.Admissible
  | .copy _ _ _ => inferInstanceAs (Decidable (_ ≤ _))
  | .write _ _ _ | .read _ _ _ => inferInstanceAs (Decidable (_ < _))
  | .view _ | .clear => inferInstanceAs (Decidable True)

/-- What a guarded access returns that is refused: a read leaves its buffer as it is. -/
def RamCall.refused : RamCall → RamAnswer
  | .write .. => .written false
  | .read _ _ out => .filled false out
  | .copy .. | .view _ | .clear => .nothing

/-- Calls in order: what each returns, and what they leave. -/
def runCalls {σ : Type} (step : σ → RamCall → RamAnswer × σ) (state : σ) :
    List RamCall → List RamAnswer × σ
  | [] => ([], state)
  | call :: rest =>
    let first := step state call
    let later := runCalls step first.2 rest
    (first.1 :: later.1, later.2)

/-- By induction on the calls: what is seen of a state after each call decides what is seen after
all of them. -/
lemma runCalls_map {σ τ : Type} {step : σ → RamCall → RamAnswer × σ}
    {step' : τ → RamCall → RamAnswer × τ} (look : σ → τ) (calls : List RamCall)
    (h : ∀ call ∈ calls, ∀ state,
      Prod.map id look (step state call) = step' (look state) call) :
    ∀ state, Prod.map id look (runCalls step state calls) = runCalls step' (look state) calls := by
  induction calls with
  | nil =>
    intro state
    rfl
  | cons call rest ih =>
    intro state
    have hfirst := h call List.mem_cons_self state
    have hrest := ih (fun later hlater => h later (List.mem_cons_of_mem call hlater))
      (step state call).2
    rw [runCalls, runCalls, ← hfirst]
    simp only [Prod.map_fst, Prod.map_snd, ← hrest]
    rfl

namespace Ram

/-- One call, or a stop at an index outside of its buffer or at a sum that is no offset. -/
def call? (ram : Ram) : RamCall → Option (RamAnswer × Ram)
  | .copy s start data =>
    if start + data.size ≤ ramSize then
      some (.nothing, ram.modify s fun image => image.patch start data)
    else none
  | .write s offset data =>
    (ram.writeGuarded? s offset data).map fun
      | some ram => (.written true, ram)
      | none => (.written false, ram)
  | .read s offset out =>
    (ram.readGuarded? s offset out.length).map fun
      | some bytes => (.filled true bytes, ram)
      | none => (.filled false out, ram)
  | .view s => some (.shown (ram.view s).get, ram)
  | .clear => some (.nothing, ram.clear)

/-- The outcome of a call. -/
def call (ram : Ram) (next : RamCall) : RamAnswer × Ram :=
  (ram.call? next).getD (next.refused, ram)

end Ram

namespace FlatRam

/-- The place of byte `i` of an access in an array of 2 MB. -/
def place (offset : Int64) (i : Nat) : Nat := ((offset.toInt + i) % ramSize).toNat

/-- Whether an access stays inside RAM and its guards. -/
def Inside (offset : Int64) (count : Nat) : Prop :=
  -65536 ≤ offset.toInt ∧ offset.toInt + count ≤ 2 ^ 21 + 65536

instance (offset : Int64) (count : Nat) : Decidable (Inside offset count) :=
  inferInstanceAs (Decidable (_ ∧ _))

/-- What a call answers and the bytes after it. Where data comes to a byte more than once, the last
one stays. -/
def call (cells : Nat → UInt8) : RamCall → RamAnswer × (Nat → UInt8)
  | .copy _ start data =>
    (.nothing, fun p =>
      if h : start ≤ p ∧ p < start + data.size then data.get (p - start) (by omega) else cells p)
  | .write _ offset data =>
    if Inside offset data.length then
      (.written true, fun p =>
        match lastIndex? (place offset) p data.length with
        | some i => data.getD i 0
        | none => cells p)
    else (.written false, cells)
  | .read _ offset out =>
    if Inside offset out.length then
      (.filled true ((List.range out.length).map fun i => cells (place offset i)), cells)
    else (.filled false out, cells)
  | .view _ => (.shown cells, cells)
  | .clear => (.nothing, fun _ => 0)

lemma place_eq (offset : Int64) : place offset = fun i => (Ram.wrapOffset offset + i) % ramSize := by
  funext i
  rw [place, Ram.wrapOffset]
  simp only [ramSize]
  omega

end FlatRam

namespace Ram

/-- RAM as an array. -/
def cells (ram : Ram) : Nat → UInt8 := (ram.view .kuseg).get

lemma cells_modify (ram : Ram) (s : Segment) (change : Image ramSize → Image ramSize) :
    (ram.modify s change).cells = (change (ram.view .kuseg)).get := by
  rw [cells, view_modify]

/-- A guarded write whose end is an offset. -/
lemma call?_write (ram : Ram) (s : Segment) (offset : Int64) (data : List UInt8)
    (h : offset.toInt + data.length < 2 ^ 63) :
    ram.call? (.write s offset data) =
      some (if FlatRam.Inside offset data.length then
        (.written true, ram.modify s fun image => image.scatter .wrap (wrapOffset offset) data)
      else (.written false, ram)) := by
  have hwrite : ram.writeGuarded? s offset data =
      some (if FlatRam.Inside offset data.length then
        some (ram.modify s fun image => image.scatter .wrap (wrapOffset offset) data)
      else none) := ram.writeGuarded?_eq s offset data h
  rw [call?, hwrite, Option.map_some]
  by_cases hin : FlatRam.Inside offset data.length
  · rw [if_pos hin, if_pos hin]
  · rw [if_neg hin, if_neg hin]

/-- A guarded read whose end is an offset. -/
lemma call?_read (ram : Ram) (s : Segment) (offset : Int64) (out : List UInt8)
    (h : offset.toInt + out.length < 2 ^ 63) :
    ram.call? (.read s offset out) =
      some (if FlatRam.Inside offset out.length then
        (.filled true ((ram.view s).gather .wrap (wrapOffset offset) out.length), ram)
      else (.filled false out, ram)) := by
  have hread : ram.readGuarded? s offset out.length =
      some (if FlatRam.Inside offset out.length then
        some ((ram.view s).gather .wrap (wrapOffset offset) out.length)
      else none) := ram.readGuarded?_eq s offset out.length h
  rw [call?, hread, Option.map_some]
  by_cases hin : FlatRam.Inside offset out.length
  · rw [if_pos hin, if_pos hin]
  · rw [if_neg hin, if_neg hin]

lemma cells_scatter (ram : Ram) (s : Segment) (offset : Int64) (data : List UInt8) :
    (ram.modify s fun image => image.scatter .wrap (wrapOffset offset) data).cells = fun p =>
      match lastIndex? (FlatRam.place offset) p data.length with
      | some i => data.getD i 0
      | none => ram.cells p := by
  funext p
  rw [cells_modify, Image.get_scatter_wrap, FlatRam.place_eq]
  rfl

lemma gather_cells (ram : Ram) (s : Segment) (offset : Int64) (count : Nat) :
    (ram.view s).gather .wrap (wrapOffset offset) count =
      (List.range count).map fun i => ram.cells (FlatRam.place offset i) := by
  rw [FlatRam.place_eq, ram.view_congr s .kuseg]
  rfl

/-- One call, in whichever way RAM is kept and through whichever segment, is one on the array. -/
lemma call?_cells (ram : Ram) {next : RamCall} (h : next.Admissible) :
    (ram.call? next).map (Prod.map id cells) = some (FlatRam.call ram.cells next) := by
  cases next with
  | copy s start data =>
    have hpatch : (ram.modify s fun image => image.patch start data).cells = fun p =>
        if hin : start ≤ p ∧ p < start + data.size then data.get (p - start) (by omega)
        else ram.cells p := by
      funext p
      rw [cells_modify, Image.get_patch_of_le _ h]
      rfl
    have hfit : start + data.size ≤ ramSize := h
    rw [call?, if_pos hfit, FlatRam.call, ← hpatch]
    rfl
  | write s offset data =>
    rw [ram.call?_write s offset data h, FlatRam.call, ← ram.cells_scatter s, Option.map_some]
    split <;> rfl
  | read s offset out =>
    rw [ram.call?_read s offset out h, FlatRam.call, ← ram.gather_cells s, Option.map_some]
    split <;> rfl
  | view s =>
    have hview : (ram.view s).get = ram.cells := by rw [cells, ram.view_congr s .kuseg]
    rw [call?, FlatRam.call, hview]
    rfl
  | clear =>
    have hzero : ram.clear.cells = fun _ => 0 := by
      funext p
      rw [clear, cells_modify, Image.get_zero]
    exact congrArg (fun cells => some (RamAnswer.nothing, cells)) hzero

/-- A call never stops whose copy stays inside RAM, or whose end is an offset. -/
lemma call?_eq (ram : Ram) {next : RamCall} (h : next.Admissible) :
    ram.call? next = some (ram.call next) := by
  obtain ⟨r, hr, -⟩ := Option.map_eq_some_iff.1 (ram.call?_cells h)
  rw [call, hr, Option.getD_some]

lemma call_cells (ram : Ram) {next : RamCall} (h : next.Admissible) :
    Prod.map id cells (ram.call next) = FlatRam.call ram.cells next := by
  have hcells := ram.call?_cells h
  rw [ram.call?_eq h, Option.map_some] at hcells
  exact Option.some.inj hcells

/-- Every run of calls on RAM, kept in either way, returns what it returns on an array of the bytes
of RAM, and every segment shows that array afterwards. None of the calls stops, whatever RAM holds.
-/
theorem runCalls_eq_flat (ram : Ram) (calls : List RamCall)
    (h : ∀ next ∈ calls, next.Admissible) :
    let r := runCalls call ram calls
    let a := runCalls FlatRam.call (ram.view .kuseg).get calls
    r.1 = a.1 ∧ (∀ s, (r.2.view s).get = a.2) ∧
      ∀ next ∈ calls, ∀ ram : Ram, ram.call? next = some (ram.call next) := by
  intro r a
  have hrun : Prod.map id cells r = a :=
    runCalls_map cells calls (fun next hnext ram => ram.call_cells (h next hnext)) ram
  obtain ⟨hanswers, hcells⟩ := Prod.mk.inj hrun
  refine ⟨hanswers, fun s => ?_, fun next hnext ram => ram.call?_eq (h next hnext)⟩
  rw [r.2.view_congr s .kuseg]
  exact hcells

/-- A write and a read over the end of mapped RAM, and a write one byte below the guard. -/
theorem runCalls_eq_flat_over_end :
    let ram := aliased (Image.zero ramSize)
    let calls : List RamCall := [.copy .kseg0 0x1FFFFC ⟨#[1, 2, 3, 4]⟩,
      .write .kseg1 0x1FFFFE [9, 8, 7, 6], .write .kuseg (-65537) [5],
      .read .kuseg (-3) [0, 0, 0, 0, 0]]
    (∀ next ∈ calls, next.Admissible) ∧
      (runCalls call ram calls).1 =
        [.nothing, .written true, .written false, .filled true [2, 9, 8, 7, 6]] := by
  intro ram calls
  have h : ∀ next ∈ calls, next.Admissible := by
    intro next hnext
    simp only [calls, List.mem_cons, List.not_mem_nil, or_false] at hnext
    rcases hnext with rfl | rfl | rfl | rfl <;> exact (by decide)
  obtain ⟨hanswers, -⟩ := runCalls_eq_flat ram calls h
  refine ⟨h, hanswers.trans ?_⟩
  rfl

end Ram

end ConsoleMemory
