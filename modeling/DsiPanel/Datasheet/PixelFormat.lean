/-!
# How a pixel is written

The display engine hands pixels over in one form, and the link packs them in another. Both are
choices among a few; the first of each is what an empty datasheet says.
-/

set_option autoImplicit false

namespace DsiPanel

/-- The order of the colours in a pixel. -/
inductive ColorOrder where
  | redFirst
  | blueFirst
  deriving DecidableEq, Repr, Inhabited

/-- The order of the bits on the link. -/
inductive BitOrder where
  | msbFirst
  | lsbFirst
  deriving DecidableEq, Repr, Inhabited

/-- Where a format narrower than the word of the link is filled up. -/
inductive Padding where
  | lowBits
  | highBits
  deriving DecidableEq, Repr, Inhabited

/-- How many bits the display engine gives to red, green and blue. -/
inductive ColorDepth where
  | rgb565
  | rgb666
  | rgb888
  deriving DecidableEq, Repr, Inhabited

/-- How the pixels are packed on the link. -/
inductive PixelStream where
  /-- sixteen bits, packed -/
  | packed565
  /-- eighteen bits, each colour in a byte of its own -/
  | loose666
  /-- twenty-four bits, packed -/
  | packed888
  /-- eighteen bits, packed -/
  | packed666
  deriving DecidableEq, Repr, Inhabited

/-- The form in which the display engine hands a pixel over. -/
structure PixelFormat where
  colorOrder : ColorOrder := .redFirst
  bitOrder : BitOrder := .msbFirst
  padding : Padding := .lowBits
  depth : ColorDepth := .rgb565
  deriving DecidableEq, Repr, Inhabited

end DsiPanel
