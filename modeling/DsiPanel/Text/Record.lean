/-!
# Values in log lines

A log line shows a table entry or a power step by its kind and what it carries: the kind alone
(`End`), the kind around one value (`Delay(5)`), or the kind with named fields between braces.
-/

set_option autoImplicit false

namespace DsiPanel.Text

/-- A kind around one value, as `Delay(5)`. -/
def tagged (kind value : String) : String :=
  kind ++ "(" ++ value ++ ")"

/-- A kind with named fields, which stand between braces and are separated by commas. -/
def fields (kind : String) (values : List (String × String)) : String :=
  let shown := values.map fun (name, value) => name ++ ": " ++ value
  kind ++ " \x7b " ++ ", ".intercalate shown ++ " \x7d"

/-- A truth value in words. -/
def flag : Bool → String
  | true => "true"
  | false => "false"

/-- A run of bytes in base ten, as `[241, 18]`. -/
def decimalBytes (bytes : List UInt8) : String :=
  "[" ++ ", ".intercalate (bytes.map fun byte => byte.toNat.repr) ++ "]"

end DsiPanel.Text
