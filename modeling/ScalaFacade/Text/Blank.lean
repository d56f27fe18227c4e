import ScalaFacade.Text.CharRange

/-! # Blanks

The characters that count as white space when leading blanks of a text are dropped (the
`White_Space` property of Unicode). The blanks that may stand between the parts of a JSON text are
fewer and are defined with the reader.
-/

set_option autoImplicit false

namespace ScalaFacade.Text

/-- The white-space characters. -/
def blankRanges : List (Nat × Nat) := [
  (0x9, 0xD), (0x20, 0x20), (0x85, 0x85), (0xA0, 0xA0), (0x1680, 0x1680), (0x2000, 0x200A),
  (0x2028, 0x2029), (0x202F, 0x202F), (0x205F, 0x205F), (0x3000, 0x3000)]

/-- Whether `c` is white space. -/
def isBlank (c : Char) : Bool := inRanges blankRanges c

/-- The text without its leading white space. -/
def trimStart (text : List Char) : List Char := text.dropWhile isBlank

end ScalaFacade.Text
