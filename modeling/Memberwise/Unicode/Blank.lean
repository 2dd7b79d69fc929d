import Memberwise.Unicode.Ranges

/-!
# Blank characters

The characters that separate tokens: the Unicode property `White_Space`, and the two invisible marks
that set the direction of writing.
-/

namespace Memberwise.Unicode

/-- The blank characters beyond ASCII. -/
def blankRanges : Ranges :=
  [(0x85, 0x85), (0xA0, 0xA0), (0x1680, 0x1680), (0x2000, 0x200A), (0x200E, 0x200F),
   (0x2028, 0x2029), (0x202F, 0x202F), (0x205F, 0x205F), (0x3000, 0x3000)]

/-- The character separates tokens and is nothing else. -/
def isBlank (c : Char) : Bool :=
  if c.toNat < 0x80 then c == ' ' || (0x09 ≤ c.toNat && c.toNat ≤ 0x0D) else blankRanges.contains c

end Memberwise.Unicode
