import DsiPanel.Datasheet.Link

/-!
# Datasheets

What is fixed about a panel and handed to the display host. A datasheet that says nothing is the
value `{}`, and a real one only spells out what it uses.
-/

set_option autoImplicit false

namespace DsiPanel

/-- How the panel is attached. -/
inductive Connection where
  | unknown
  /-- by a display serial link -/
  | dsi
  deriving DecidableEq, Repr, Inhabited

/-- The fixed characteristics of a panel. -/
structure Datasheet where
  connection : Connection := .unknown
  /-- the width in pixels -/
  width : UInt16 := 0
  /-- the height in pixels -/
  height : UInt16 := 0
  /-- the density in dots per inch -/
  density : UInt16 := 0
  link : Link := {}
  deriving DecidableEq, Repr, Inhabited

end DsiPanel
