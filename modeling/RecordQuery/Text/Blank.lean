import RecordQuery.Text.CodeRanges

/-!
# Blank characters

The characters of the property White_Space, and text without the blanks around it.
-/

namespace RecordQuery.Text

/-- The twenty-five characters with the property White_Space. -/
def blankRanges : CodeRanges :=
  [(0x09, 0x0D), (0x20, 0x20), (0x85, 0x85), (0xA0, 0xA0), (0x1680, 0x1680), (0x2000, 0x200A),
   (0x2028, 0x2029), (0x202F, 0x202F), (0x205F, 0x205F), (0x3000, 0x3000)]

/-- Is the character white space? -/
def isBlank (c : Char) : Bool := blankRanges.contains c.toNat

/-- The text from its first character that is not blank. -/
def trimStart (text : List Char) : List Char := text.dropWhile isBlank

/-- The text without the blanks before and after it. -/
def trim (text : List Char) : List Char := (trimStart (trimStart text).reverse).reverse

/-- Text that starts and ends with a visible character has nothing to lose. -/
theorem trimStart_of_not_isBlank (c : Char) (rest : List Char) (visible : isBlank c = false) :
    trimStart (c :: rest) = c :: rest := by
  simp [trimStart, visible]

end RecordQuery.Text
