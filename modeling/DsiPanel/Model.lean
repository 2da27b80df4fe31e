import DsiPanel.Datasheet
import DsiPanel.Script
import DsiPanel.Table.Entry

/-!
# Panel models

All that differs between one panel and another, in one record: the datasheet, the two tables, and
the power script that goes with each. The order in which they are run is the same for every model,
and is not part of the record.
-/

set_option autoImplicit false

namespace DsiPanel

/-- What sets one panel apart from others. -/
structure Model where
  name : String
  datasheet : Datasheet := {}
  /-- powers the panel up, before the init table -/
  powerOn : Script := []
  /-- sets the registers up -/
  initTable : Table := []
  /-- shuts the registers down -/
  suspendTable : Table := []
  /-- powers the panel down, after the suspend table -/
  powerOff : Script := []
  deriving DecidableEq, Repr

end DsiPanel
