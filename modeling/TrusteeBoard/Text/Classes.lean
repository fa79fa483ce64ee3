/-!
# Classes of characters

A class of characters is given as ranges of code points. White space is such a class.
-/

namespace TrusteeBoard.Text

/-- Whether a character lies in one of some ranges, both ends included. -/
def inRanges (ranges : List (Nat × Nat)) (c : Char) : Bool :=
  ranges.any fun range => range.1 ≤ c.toNat && c.toNat ≤ range.2

/-- The ranges of white space, ascending. -/
def whitespaceRanges : List (Nat × Nat) :=
  [ (0x9, 0xd), (0x20, 0x20), (0x85, 0x85), (0xa0, 0xa0), (0x1680, 0x1680), (0x2000, 0x200a),
    (0x2028, 0x2029), (0x202f, 0x202f), (0x205f, 0x205f), (0x3000, 0x3000) ]

def isWhitespace (c : Char) : Bool :=
  inRanges whitespaceRanges c

end TrusteeBoard.Text
