import ConsoleMemory.Memory.Guest
import ConsoleMemory.Proofs.Guard
import ConsoleMemory.Proofs.PageTable

/-!
# Guest accesses by region

The table path and the region map decode an address in two different ways. In a memory whose tables
belong to its cache state they agree: what a guest access does is told by the region of its address,
without any table, and no guest access stops.
-/

namespace ConsoleMemory

namespace Address

lemma ramPage_index (a : Address) : a.page % 0x20 * pageSize + a.offset = a.toNat % ramSize := by
  simp only [page, offset, pageSize, ramSize]
  omega

lemma biosPage_index (a : Address) :
    a.page % biosPages * pageSize + a.offset = a.toNat % biosSize := by
  simp only [page, offset, pageSize, biosPages, biosSize]
  omega

end Address

namespace Memory

variable {ρ : Type}

/-- The tables belong to the cache state, and unmapped loads see zeros. -/
structure Coherent (m : Memory ρ) : Prop where
  tables : m.tables = .ofCache m.cache
  sink : m.sink = Image.zero _

variable [RegisterBank ρ]

/-- A guest load, told by the region of its address. -/
def readByRegion (m : Memory ρ) (w : Width) (a : Address) : Reply ρ (Value w) :=
  match Region.ofAddress a with
  | .ram => ⟨(m.ram.view (Segment.ofAddress a)).load .wrap w (a.toNat % ramSize), m, .empty⟩
  | .parallel => ⟨m.parallel.load .stop w (a.toNat % parallelSize), m, .empty⟩
  | .scratchpad => ⟨m.hardware.load .stop w (a.toNat % hardwareSize), m, .empty⟩
  | .io => m.readRegister w a
  | .bios => ⟨m.bios.load .stop w (a.toNat % biosSize), m, .empty⟩
  | .cacheControl | .unmapped => ⟨0, m, .notice (.unmappedRead w a)⟩

/-- A guest store, told by the region of its address. -/
def writeByRegion (m : Memory ρ) {w : Width} (a : Address) (v : Value w) : Reply ρ Unit :=
  match Region.ofAddress a with
  | .ram =>
    if m.cache = .writeEnabled then
      done
        { m with
          ram := m.ram.modify (Segment.ofAddress a) fun image =>
            image.store .wrap (a.toNat % ramSize) v }
        (m.report (reportedAddress w a) 1)
    else m.storeUnmapped a v
  | .parallel =>
    done { m with parallel := m.parallel.store .stop (a.toNat % parallelSize) v }
      (m.report (reportedAddress w a) 1)
  | .scratchpad =>
    done { m with hardware := m.hardware.store .stop (a.toNat % hardwareSize) v } .empty
  | .io => m.writeRegister a v
  | .bios | .cacheControl | .unmapped => m.storeUnmapped a v

variable {m : Memory ρ}

/-- In a memory whose tables belong to its cache state a guest load never stops. -/
theorem Coherent.read?_eq (h : m.Coherent) (w : Width) (a : Address) :
    m.read? w a = some (m.readByRegion w a) := by
  have hspec := Region.ofAddress_spec a
  have hload : ∀ {n : Nat} [NeZero n] (img : Image n) (rule : EndRule) (size : Nat),
      img.load? rule w (a.toNat % size) = some (img.load rule w (a.toNat % size)) :=
    fun img rule size => img.load?_eq (a.mod_add_bytes_lt size w) rule
  have hsink : m.sink.load? .stop w (0 + a.offset) = some 0 := by
    rw [Nat.zero_add, h.sink, Address.offset, hload, Image.load_zero _ (a.mod_add_bytes_lt _ w)]
  unfold read? readByRegion
  rw [h.tables, PageTables.readEntry_ofCache]
  cases hregion : Region.ofAddress a <;> rw [hregion] at hspec <;> simp only at hspec ⊢
  case scratchpad =>
    rw [if_pos hspec.1, if_pos hspec.2, Address.offset, hload]
    rfl
  case io =>
    rw [if_pos hspec.1, if_neg hspec.2]
    rfl
  case ram =>
    rw [if_neg hspec.1, PageEntry.ofPage_of_isRamPage hspec.2]
    simp only [PageEntry.ram, Address.ramPage_index, hload]
    rfl
  case parallel =>
    rw [if_neg hspec.1, hspec.2, PageEntry.ofPage_parallelPage]
    simp only [PageEntry.parallel, Nat.zero_add, Address.offset, hload]
    rfl
  case bios =>
    rw [if_neg hspec.1, PageEntry.ofPage_of_isBiosPage hspec.2]
    simp only [PageEntry.rom, Address.biosPage_index, hload]
    rfl
  case cacheControl =>
    have hentry : PageEntry.ofPage a.page = .sink := by
      rw [hspec.2]
      decide
    rw [if_neg hspec.1, hentry]
    simp only [PageEntry.sink, hsink]
    rfl
  case unmapped =>
    obtain ⟨hhardware, -, hparallel, hram, hbios⟩ := hspec
    rw [if_neg hhardware, PageEntry.ofPage_eq_sink hhardware hparallel hram hbios]
    simp only [PageEntry.sink, hsink]
    rfl

/-- In a memory whose tables belong to its cache state a guest store never stops. -/
theorem Coherent.write?_eq (h : m.Coherent) {w : Width} (a : Address) (v : Value w) :
    m.write? a v = some (m.writeByRegion a v) := by
  have hspec := Region.ofAddress_spec a
  have hstore : ∀ {n : Nat} [NeZero n] (img : Image n) (rule : EndRule) (size : Nat),
      img.store? rule (a.toNat % size) v = some (img.store rule (a.toNat % size) v) :=
    fun img rule size => img.store?_eq (a.mod_add_bytes_lt size w) rule v
  unfold write? writeByRegion
  rw [h.tables, PageTables.writeEntry_ofCache]
  cases hregion : Region.ofAddress a <;> rw [hregion] at hspec <;> simp only at hspec ⊢
  case scratchpad =>
    rw [if_pos hspec.1, if_pos hspec.2, Address.offset, hstore]
    rfl
  case io =>
    rw [if_pos hspec.1, if_neg hspec.2]
    rfl
  case ram =>
    rw [if_neg hspec.1, PageTables.writeEntryOf_of_isRamPage _ hspec.2]
    by_cases hcache : m.cache = .writeEnabled
    · rw [if_pos hcache, if_pos hcache,
        ← m.ram.modify_view _ fun image => image.store .wrap (a.toNat % ramSize) v]
      simp only [PageEntry.ram, Address.ramPage_index, hstore]
      rfl
    · rw [if_neg hcache, if_neg hcache]
      rfl
  case parallel =>
    rw [if_neg hspec.1, hspec.2, PageTables.writeEntryOf_parallelPage]
    simp only [PageEntry.parallel, Nat.zero_add, Address.offset, hstore]
    rfl
  case bios =>
    have hpage := (isBiosPage_iff _).1 hspec.2
    have hparallel : a.page ≠ parallelPage := by rw [parallelPage]; omega
    have hram : ¬isRamPage a.page = true := by rw [isRamPage_iff]; omega
    rw [if_neg hspec.1, PageTables.writeEntryOf_eq_none _ hparallel hram]
    rfl
  case cacheControl =>
    have hentry : PageTables.writeEntryOf m.cache a.page = none := by
      rw [hspec.2]
      exact PageTables.writeEntryOf_eq_none _ (by decide) (by decide)
    rw [if_neg hspec.1, hentry]
    rfl
  case unmapped =>
    obtain ⟨hhardware, -, hparallel, hram, -⟩ := hspec
    rw [if_neg hhardware, PageTables.writeEntryOf_eq_none _ hparallel hram]
    rfl

lemma Coherent.read_eq (h : m.Coherent) (w : Width) (a : Address) :
    m.read w a = m.readByRegion w a := by
  rw [read, h.read?_eq, Option.getD_some]

lemma Coherent.write_eq (h : m.Coherent) {w : Width} (a : Address) (v : Value w) :
    m.write a v = m.writeByRegion a v := by
  rw [write, h.write?_eq, Option.getD_some]

lemma Coherent.read_ram (h : m.Coherent) (w : Width) {a : Address}
    (ha : isRamPage a.page = true) :
    m.read w a =
      ⟨(m.ram.view (Segment.ofAddress a)).load .wrap w (a.toNat % ramSize), m, .empty⟩ := by
  rw [h.read_eq, readByRegion, (Region.ofAddress_eq_ram_iff a).2 ha]

lemma Coherent.write_ram (h : m.Coherent) {w : Width} {a : Address} (v : Value w)
    (ha : isRamPage a.page = true) (hcache : m.cache = .writeEnabled) :
    m.write a v =
      done
        { m with
          ram := m.ram.modify (Segment.ofAddress a) fun image =>
            image.store .wrap (a.toNat % ramSize) v }
        (m.report (reportedAddress w a) 1) := by
  rw [h.write_eq, writeByRegion, (Region.ofAddress_eq_ram_iff a).2 ha]
  exact if_pos hcache

end Memory

end ConsoleMemory
