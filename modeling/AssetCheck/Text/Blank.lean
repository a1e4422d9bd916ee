/-!
Blank characters. A character is blank when Unicode gives it the property `White_Space`, which
twenty-five code points have, six of them ASCII.
-/

namespace AssetCheck.Text

/-- The code points with the property `White_Space`, as closed ranges in ascending order. -/
def blankRanges : List (Nat × Nat) :=
  [(0x9, 0xD), (0x20, 0x20), (0x85, 0x85), (0xA0, 0xA0), (0x1680, 0x1680), (0x2000, 0x200A),
   (0x2028, 0x2029), (0x202F, 0x202F), (0x205F, 0x205F), (0x3000, 0x3000)]

/-- A closed range of code points holds a character. -/
def inRange (c : Char) (range : Nat × Nat) : Bool :=
  range.1 ≤ c.toNat && c.toNat ≤ range.2

/-- Blank in the sense of the property `White_Space`. -/
def isBlank (c : Char) : Bool := blankRanges.any (inRange c)

/-- The characters without the blanks at the two ends. -/
def trimList (cs : List Char) : List Char :=
  ((cs.dropWhile isBlank).reverse.dropWhile isBlank).reverse

def trim (s : String) : String := String.ofList (trimList s.toList)

/-- No character of the text is visible. -/
def isAllBlank (s : String) : Bool := s.toList.all isBlank

end AssetCheck.Text
