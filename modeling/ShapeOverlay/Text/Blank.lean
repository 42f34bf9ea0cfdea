/-!
# Blank text

A text is blank if every character of it is white space in the sense of the Unicode property of that
name. The property holds of 25 characters, which `Blank.isWhiteSpace` lists by ranges.
-/

namespace ShapeOverlay.Blank

/-- The ranges of characters with the White_Space property, by their first and last code points. -/
def ranges : List (Nat × Nat) :=
  [(0x09, 0x0D), (0x20, 0x20), (0x85, 0x85), (0xA0, 0xA0), (0x1680, 0x1680), (0x2000, 0x200A),
    (0x2028, 0x2029), (0x202F, 0x202F), (0x205F, 0x205F), (0x3000, 0x3000)]

/-- The character has the White_Space property. -/
def isWhiteSpace (c : Char) : Bool :=
  ranges.any fun (first, last) => first ≤ c.toNat && c.toNat ≤ last

/-- No character of the text is other than white space. -/
def isBlank (s : String) : Bool := s.toList.all isWhiteSpace

end ShapeOverlay.Blank
