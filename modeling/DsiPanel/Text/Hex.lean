/-!
# Register numbers and register contents in base sixteen

A log line shows a register as `0x` and at least two lower-case digits (`0x0a`, `0xabcde`), and a
run of bytes as a bracketed list of two digits each (`[80, 0a]`).
-/

set_option autoImplicit false

namespace DsiPanel.Text

/-- The digits of `n` in base sixteen, filled up with zeros in front to at least two. -/
def hexDigits (n : Nat) : List Char :=
  let digits := Nat.toDigits 16 n
  List.replicate (2 - digits.length) '0' ++ digits

/-- A register number, as `0x0a`. -/
def hexRegister (register : UInt32) : String :=
  "0x" ++ String.ofList (hexDigits register.toNat)

/-- A run of bytes, as `[80, 0a]`. -/
def hexBytes (bytes : List UInt8) : String :=
  "[" ++ ", ".intercalate (bytes.map fun byte => String.ofList (hexDigits byte.toNat)) ++ "]"

end DsiPanel.Text
