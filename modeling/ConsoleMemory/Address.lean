/-!
# Guest addresses

A guest address is a 32-bit word. Its upper half names one of 65536 pages of 64 KB, its lower half a
byte inside that page.
-/

namespace ConsoleMemory

/-- Bytes in a page. -/
abbrev pageSize : Nat := 0x10000

/-- Pages in the address space. -/
abbrev pageCount : Nat := 0x10000

/-- A 32-bit guest address. -/
abbrev Address := BitVec 32

namespace Address

/-- The page an address lies on. -/
def page (a : Address) : Nat := a.toNat / pageSize

/-- The position of an address inside its page. -/
def offset (a : Address) : Nat := a.toNat % pageSize

/-- The address of the aligned word that holds the byte at `a`. -/
def wordStart (a : Address) : Address := BitVec.ofNat 32 (a.toNat / 4 * 4)

theorem page_lt (a : Address) : a.page < pageCount := by
  have h := a.isLt
  simp only [page, pageSize, pageCount]
  omega

theorem toNat_wordStart (a : Address) : a.wordStart.toNat = a.toNat / 4 * 4 := by
  have h := a.isLt
  simp only [wordStart, BitVec.toNat_ofNat]
  omega

end Address

end ConsoleMemory
