import DsiPanel.Table.Entry

/-!
# The vendor format of a table

Panel vendors hand out tables as triples of an opcode, a count and a list of parameter bytes.
Three opcodes are not registers: two of them mark a wait, whose length is the count, and one marks
the end of the table. Any other opcode is a register write, and there the count is a promise about
the list.

`Triple.decode` reads a triple once, so that nothing later has to know the three reserved opcodes.
A triple it refuses is refused for one of two causes, and **too many bytes is told before a wrong
count**. For a reserved opcode the parameter bytes are not looked at.
-/

set_option autoImplicit false

namespace DsiPanel.Vendor

/-! ## Reserved opcodes -/

/-- The count is a wait in milliseconds. -/
def delayOpcode : UInt32 := 0xFFFC

/-- The count is a wait in microseconds. -/
def microDelayOpcode : UInt32 := 0xFFFB

/-- The table was meant to end here. -/
def endOpcode : UInt32 := 0xFFFD

/-- Whether the opcode is one of the three that are no registers. -/
def IsReserved (opcode : UInt32) : Prop :=
  opcode = delayOpcode ∨ opcode = microDelayOpcode ∨ opcode = endOpcode

instance (opcode : UInt32) : Decidable (IsReserved opcode) := by
  unfold IsReserved; infer_instance

/-! ## Decoding -/

/-- One entry as the vendor writes it. -/
structure Triple where
  opcode : UInt32
  count : UInt8
  parameters : List UInt8
  deriving DecidableEq, Repr

/-- Why a triple is not an entry. -/
inductive Refusal where
  /-- the count is beyond what one write may carry -/
  | tooManyParameters (count : Nat)
  /-- the count is not the number of bytes given -/
  | countMismatch (count : UInt8) (provided : Nat)
  deriving DecidableEq, Repr

namespace Refusal

/-- The name of the cause. -/
def name : Refusal → String
  | .tooManyParameters _ => "TooManyParameters"
  | .countMismatch .. => "CountMismatch"

/-- The sentence that reports the cause. -/
def message : Refusal → String
  | .tooManyParameters count =>
    count.repr ++ " parameters exceed the " ++ maxParameters.repr ++ " byte limit"
  | .countMismatch count provided =>
    "declared " ++ count.toNat.repr ++ " parameters, " ++ provided.repr ++ " given"

/-- The defect that a strictly written entry has for the same cause. -/
def defect : Refusal → Defect
  | .tooManyParameters _ => .oversized
  | .countMismatch .. => .miscounted

end Refusal

namespace Triple

/-- The entry that a triple stands for, or why there is none. -/
def decode (triple : Triple) : Except Refusal Entry :=
  if triple.opcode = delayOpcode then .ok (.delay triple.count.toUInt32)
  else if triple.opcode = microDelayOpcode then .ok (.microDelay triple.count.toUInt32)
  else if triple.opcode = endOpcode then .ok .endMark
  -- A count beyond the limit is refused for that, whether or not it is also the wrong count.
  else if maxParameters < triple.count.toNat then .error (.tooManyParameters triple.count.toNat)
  else if triple.count.toNat ≠ triple.parameters.length then
    .error (.countMismatch triple.count triple.parameters.length)
  else .ok (.write triple.opcode triple.parameters)

/-- The entry of a triple that was written down strictly, or its defect. -/
def require (triple : Triple) : Except Defect Entry :=
  triple.decode.mapError Refusal.defect

end Triple

/-- Decode a whole table in order. A refusal comes with the index of the first triple refused. -/
def decodeTable (triples : List Triple) : Except (Nat × Refusal) Table :=
  go 0 triples
where
  /-- Decode the rest of a table, which starts at the given index. -/
  go (index : Nat) : List Triple → Except (Nat × Refusal) Table
    | [] => .ok []
    | triple :: rest =>
      match triple.decode with
      | .error refusal => .error (index, refusal)
      | .ok entry => (go (index + 1) rest).map (entry :: ·)

/-! ## What decoding says about a register write -/

theorem Triple.decode_of_not_isReserved {triple : Triple} (plain : ¬ IsReserved triple.opcode) :
    triple.decode =
      if maxParameters < triple.count.toNat then .error (.tooManyParameters triple.count.toNat)
      else if triple.count.toNat ≠ triple.parameters.length then
        .error (.countMismatch triple.count triple.parameters.length)
      else .ok (.write triple.opcode triple.parameters) := by
  simp only [IsReserved, not_or] at plain
  obtain ⟨notDelay, notMicroDelay, notEnd⟩ := plain
  simp [decode, notDelay, notMicroDelay, notEnd]

theorem Triple.isOversized_of_decode {triple : Triple} {entry : Entry}
    (decoded : triple.decode = .ok entry) : entry.isOversized = false := by
  unfold decode at decoded
  split at decoded
  · cases decoded; rfl
  split at decoded
  · cases decoded; rfl
  split at decoded
  · cases decoded; rfl
  split at decoded
  · cases decoded
  split at decoded
  · cases decoded
  · cases decoded
    simp only [Entry.isOversized, decide_eq_false_iff_not]
    omega

end DsiPanel.Vendor
