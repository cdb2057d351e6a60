/-!
# White space

The characters with the Unicode property White_Space, and trimming by them. A no-break space and the
ideographic space are white space; a zero-width space is not.
-/

namespace ConsoleMemory.Text

/-- The code points with the property White_Space. -/
def blankCodes : List Nat :=
  [0x09, 0x0A, 0x0B, 0x0C, 0x0D, 0x20, 0x85, 0xA0, 0x1680, 0x2000, 0x2001, 0x2002, 0x2003, 0x2004,
    0x2005, 0x2006, 0x2007, 0x2008, 0x2009, 0x200A, 0x2028, 0x2029, 0x202F, 0x205F, 0x3000]

/-- White space in the sense of Unicode. -/
def isBlank (c : Char) : Bool := blankCodes.contains c.toNat

/-- Drops white space in front. -/
def trimStart (cs : List Char) : List Char := cs.dropWhile isBlank

/-- Drops white space at the end. -/
def trimEnd (cs : List Char) : List Char := (cs.reverse.dropWhile isBlank).reverse

/-- Drops white space at both ends. -/
def trim (cs : List Char) : List Char := trimEnd (trimStart cs)

/-- Lower case for ASCII letters; every other character is kept. -/
def asciiLower (s : String) : String := String.ofList (s.toList.map Char.toLower)

end ConsoleMemory.Text
