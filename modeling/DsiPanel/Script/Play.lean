import DsiPanel.Run

/-!
# Playing a power script

The steps of a script are carried out in order and the first failure stops them; a step that was
carried out is not undone. Each step is noted in the journal before its action is asked for.
-/

set_option autoImplicit false

namespace DsiPanel.Script

variable {σ : Type} [Host σ]

/-- Carry a power script out on the host. -/
def play : Script → Run Fault σ Unit
  | [] => pure ()
  | step :: rest => do
    Run.note (.attempted step)
    Run.act step.action
    play rest

@[simp] theorem play_nil : (play [] : Run Fault σ Unit) = pure () := rfl

theorem play_cons (step : Step) (rest : Script) :
    (play (step :: rest) : Run Fault σ Unit) = (do
      Run.note (.attempted step)
      Run.act step.action
      play rest) := rfl

/-- A script in two parts is played part after part. -/
theorem play_append (first second : Script) :
    (play (first ++ second) : Run Fault σ Unit) = (do play first; play second) := by
  induction first with
  | nil => simp
  | cons step rest ih => simp only [List.cons_append, play_cons, ih, bind_assoc]

end DsiPanel.Script
