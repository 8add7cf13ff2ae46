import AboutPages.Text.Ranges

/-!
# Blank and control characters
-/

namespace AboutPages.Text

/-- The code points with the Unicode property White_Space. -/
def blankRanges : CodeRanges :=
  [(0x9, 0xD), (0x20, 0x20), (0x85, 0x85), (0xA0, 0xA0), (0x1680, 0x1680), (0x2000, 0x200A),
   (0x2028, 0x2029), (0x202F, 0x202F), (0x205F, 0x205F), (0x3000, 0x3000)]

def isBlank (c : Char) : Bool :=
  CodeRanges.holds blankRanges c.toNat

/-- The control characters, Unicode category Cc: two blocks of code points. -/
def isControl (c : Char) : Bool :=
  decide (c.toNat < 0x20 ∨ 0x7F ≤ c.toNat ∧ c.toNat ≤ 0x9F)

def trimBlankList (cs : List Char) : List Char :=
  ((cs.dropWhile isBlank).reverse.dropWhile isBlank).reverse

end AboutPages.Text
