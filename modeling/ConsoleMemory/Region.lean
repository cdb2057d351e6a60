import ConsoleMemory.Address

/-!
# The address map

Sizes of the buffers, the three segments through which they are seen, and the region an address
belongs to. RAM fills an 8 MB window in each segment, so its 2 MB repeat four times there.
-/

namespace ConsoleMemory

/-- Bytes of main RAM. -/
abbrev ramSize : Nat := 0x200000

/-- Bytes past either end of RAM that a displaced access may still name. -/
abbrev guardSize : Nat := 0x10000

/-- Bytes of the parallel window. -/
abbrev parallelSize : Nat := 0x10000

/-- Bytes of the hardware window; the scratchpad is at its start. -/
abbrev hardwareSize : Nat := 0x10000

/-- Bytes of the scratchpad. -/
abbrev scratchpadSize : Nat := 0x400

/-- Bytes of the boot ROM. -/
abbrev biosSize : Nat := 0x80000

/-- Pages of a RAM window. -/
abbrev ramPages : Nat := 0x80

/-- Pages of a ROM window. -/
abbrev biosPages : Nat := 0x08

/-- The page of the parallel window. -/
abbrev parallelPage : Nat := 0x1F00

/-- The address of the cache control register. -/
abbrev cacheControlAddress : Address := 0xFFFE0130#32

/-- The three segments: the user segment and two kernel views of the same memory. -/
inductive Segment where
  | kuseg
  | kseg0
  | kseg1
  deriving DecidableEq, Repr

namespace Segment

/-- All segments in order. -/
def all : List Segment := [kuseg, kseg0, kseg1]

/-- The segment of a page number, told by its bits 13 to 15; all but two patterns are the user
segment. -/
def ofPage (page : Nat) : Segment :=
  match page / 0x2000 % 8 with
  | 4 => kseg0
  | 5 => kseg1
  | _ => kuseg

/-- The segment of an address. -/
def ofAddress (a : Address) : Segment := ofPage a.page

/-- The position in the order of segments. -/
def index : Segment → Nat
  | kuseg => 0
  | kseg0 => 1
  | kseg1 => 2

/-- The first page of a segment's RAM window. -/
def ramPage : Segment → Nat
  | kuseg => 0x0000
  | kseg0 => 0x8000
  | kseg1 => 0xA000

/-- The first page of a segment's ROM window. -/
def biosPage : Segment → Nat
  | kuseg => 0x1FC0
  | kseg0 => 0x9FC0
  | kseg1 => 0xBFC0

/-- The page of a segment's hardware window. -/
def hardwarePage : Segment → Nat
  | kuseg => 0x1F80
  | kseg0 => 0x9F80
  | kseg1 => 0xBF80

/-- The address of the first RAM byte seen through a segment. -/
def base (s : Segment) : Address := BitVec.ofNat 32 (s.ramPage * pageSize)

end Segment

/-- Pages that show the hardware window. -/
def isHardwarePage (page : Nat) : Bool := Segment.all.any fun s => page == s.hardwarePage

/-- Pages that show RAM. -/
def isRamPage (page : Nat) : Bool :=
  Segment.all.any fun s => decide (s.ramPage ≤ page ∧ page < s.ramPage + ramPages)

/-- Pages that show the boot ROM. -/
def isBiosPage (page : Nat) : Bool :=
  Segment.all.any fun s => decide (s.biosPage ≤ page ∧ page < s.biosPage + biosPages)

/-- What an address belongs to. -/
inductive Region where
  | ram
  | parallel
  | scratchpad
  | io
  | bios
  | cacheControl
  | unmapped
  deriving DecidableEq, Repr

namespace Region

/-- The region of an address. -/
def ofAddress (a : Address) : Region :=
  if isHardwarePage a.page then
    if a.offset < scratchpadSize then scratchpad else io
  else if a = cacheControlAddress then cacheControl
  else if a.page = parallelPage then parallel
  else if isRamPage a.page then ram
  else if isBiosPage a.page then bios
  else unmapped

/-- The printed name of a region. -/
def name : Region → String
  | ram => "RAM"
  | parallel => "Parallel"
  | scratchpad => "Scratchpad"
  | io => "IO"
  | bios => "BIOS"
  | cacheControl => "CacheControl"
  | unmapped => "Unmapped"

end Region

end ConsoleMemory
