import DsiPanel.Run

/-!
# Sending a table

The entries of a table are carried out in order, the end mark included, for which nothing is to be
done. The first failure stops the walk, and what was sent before stays sent. Each entry is noted
in the journal before anything is done about it.

Two rules are decided here and nowhere else. A wait of up to `shortDelayMs` milliseconds is asked
for in microseconds, because hosts are exact about short waits only in that unit. And a write of
more than `maxParameters` bytes never reaches the host.
-/

set_option autoImplicit false

namespace DsiPanel

/-- Waits up to this many milliseconds are asked for in microseconds. -/
def shortDelayMs : UInt32 := 10

variable {σ : Type} [Host σ]

/-- Do what one entry asks for. `urgent` goes with every register write. -/
def Entry.carryOut (urgent : Bool) : Entry → Run Fault σ Unit
  | .delay milliseconds =>
    -- The product cannot wrap: it is at most `shortDelayMs * 1000`.
    if milliseconds ≤ shortDelayMs then Run.act (.waitUs (milliseconds * 1000))
    else Run.act (.waitMs milliseconds)
  | .microDelay microseconds => Run.act (.waitUs microseconds)
  | .endMark => pure ()
  | .write opcode parameters =>
    if maxParameters < parameters.length then do
      Run.note (.oversized opcode parameters.length)
      Run.fail .tooManyParameters
    else Run.act (.write opcode parameters urgent)

namespace Table

/-- Send the rest of a table, which starts at the given index. -/
def sendFrom (urgent : Bool) : (index : Nat) → Table → Run Fault σ Unit
  | _, [] => pure ()
  | index, entry :: rest => do
    Run.note (.reached index entry)
    entry.carryOut urgent
    sendFrom urgent (index + 1) rest

/-- Send a table to the host. -/
def send (table : Table) (urgent : Bool) : Run Fault σ Unit :=
  sendFrom urgent 0 table

theorem sendFrom_cons (urgent : Bool) (index : Nat) (entry : Entry) (rest : Table) :
    (sendFrom urgent index (entry :: rest) : Run Fault σ Unit) = (do
      Run.note (.reached index entry)
      entry.carryOut urgent
      sendFrom urgent (index + 1) rest) := rfl

end Table

end DsiPanel
