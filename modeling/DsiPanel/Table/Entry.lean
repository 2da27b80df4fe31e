import DsiPanel.Text.Record

/-!
# Entries of a command table

The registers of a panel are set up by a table of entries: register writes, waits, and a marker
where a table was meant to end. The marker is a remark and nothing more; a walk goes on past it.

A write may carry at most `maxParameters` bytes. The constructor `Entry.write` does not enforce
this, because tables arrive from outside and are judged when they are walked. Two other ways to
write an entry down do: `Entry.register` asks for a proof, which a literal table gives without a
word, and `Entry.checked` decides, and says what is wrong.
-/

set_option autoImplicit false

namespace DsiPanel

/-- The most parameter bytes that one register write may carry. -/
def maxParameters : Nat := 64

/-! ## Entries -/

/-- One entry of a command table. -/
inductive Entry where
  /-- write the parameters to the register -/
  | write (opcode : UInt32) (parameters : List UInt8)
  /-- wait for so many milliseconds -/
  | delay (milliseconds : UInt32)
  /-- wait for so many microseconds -/
  | microDelay (microseconds : UInt32)
  /-- the table was meant to end here -/
  | endMark
  deriving DecidableEq, Repr

/-- A command table is the list of its entries. -/
abbrev Table := List Entry

namespace Entry

/-- True for the entries that go out on the link. -/
def isWrite : Entry → Bool
  | .write .. => true
  | _ => false

/-- True for a write that carries more bytes than a write may. -/
def isOversized : Entry → Bool
  | .write _ parameters => maxParameters < parameters.length
  | _ => false

/-- The entry as a log line shows it. -/
def text : Entry → String
  | .write opcode parameters =>
    Text.fields "Write"
      [("opcode", opcode.toNat.repr), ("params", Text.decimalBytes parameters)]
  | .delay milliseconds => Text.tagged "Delay" milliseconds.toNat.repr
  | .microDelay microseconds => Text.tagged "MicroDelay" microseconds.toNat.repr
  | .endMark => "End"

end Entry

/-! ## Writes within the limit -/

/-- Why an entry that was written down strictly is none. -/
inductive Defect where
  /-- the write carries too many bytes -/
  | oversized
  /-- the declared count is not the number of bytes given -/
  | miscounted
  deriving DecidableEq, Repr

/-- The sentence that reports the defect. -/
def Defect.message : Defect → String
  | .oversized => "register write exceeds 64 parameter bytes"
  | .miscounted => "parameter count does not match the parameter list"

namespace Entry

/-- A register write that is known to be within the limit. In a literal table the proof is found by
    counting. -/
def register (opcode : UInt32) (parameters : List UInt8)
    (_ : parameters.length ≤ maxParameters := by decide) : Entry :=
  .write opcode parameters

/-- A command that takes no parameters. -/
def command (opcode : UInt32) : Entry :=
  register opcode []

/-- A register write, or the defect that it is too long. -/
def checked (opcode : UInt32) (parameters : List UInt8) : Except Defect Entry :=
  if parameters.length ≤ maxParameters then .ok (.write opcode parameters) else .error .oversized

@[simp] theorem isOversized_write (opcode : UInt32) (parameters : List UInt8) :
    (write opcode parameters).isOversized = true ↔ maxParameters < parameters.length := by
  simp [isOversized]

theorem checked_eq_ok_iff {opcode : UInt32} {parameters : List UInt8} {entry : Entry} :
    checked opcode parameters = .ok entry ↔
      parameters.length ≤ maxParameters ∧ .write opcode parameters = entry := by
  unfold checked
  split
  · simp_all
  · simp_all [Nat.not_le_of_lt]

end Entry

/-! ## Standard commands

These are the commands of the display command set that the tables of a lifecycle use. -/

namespace Dcs

def getPowerMode : UInt32 := 0x0A
def enterSleep : UInt32 := 0x10
def exitSleep : UInt32 := 0x11
def displayOff : UInt32 := 0x28
def displayOn : UInt32 := 0x29
def tearOn : UInt32 := 0x35

end Dcs

end DsiPanel
