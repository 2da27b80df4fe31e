import DsiPanel.Catalog.Jd9365
import DsiPanel.Catalog.St7703

/-!
# The catalogue

The models that are known by name, in the order in which they are listed.
-/

set_option autoImplicit false

namespace DsiPanel.Catalog

/-- All models, in order. -/
def models : List Model :=
  [st7703, jd9365]

/-- The model of that name. -/
def find? (name : String) : Option Model :=
  models.find? (·.name == name)

end DsiPanel.Catalog
