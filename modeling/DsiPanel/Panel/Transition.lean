import DsiPanel.Panel.Basic
import DsiPanel.Script.Play
import DsiPanel.Table.Send

/-!
# Moving through the lifecycle

There are two sequences, and they belong to the model: **up** plays the power-on script and sends
the init table, **down** sends the suspend table and plays the power-off script. Bring-up and
resume both run *up*; only the states they start from differ.

A transition ends in one of two ways. If its sequence is complete, the panel is in the state it
was aimed at. If the sequence stopped anywhere, nothing is known about the panel any more,
whatever state it was in before, and the only way on is to bring it up again. The panel keeps its
host either way.
-/

set_option autoImplicit false

namespace DsiPanel

variable {σ : Type}

/-! ## The two sequences -/

/-- Power up, and set the registers up. -/
def Model.up [Host σ] (model : Model) : Run Fault σ Unit := do
  model.powerOn.play
  model.initTable.send true

/-- Shut the registers down, and power down. -/
def Model.down [Host σ] (model : Model) : Run Fault σ Unit := do
  model.suspendTable.send true
  model.powerOff.play

/-! ## Transitions -/

namespace Panel

/-- Run a sequence on the host of the panel, and move the panel to `target` if it is complete. The
    journal has a line before the sequence and one after it, and the latter says how it ended. -/
def transition (operation : Operation) (target : Lifecycle) (sequence : Run Fault σ Unit) :
    Run Error (Panel σ) Unit := fun panel =>
  match panel.host with
  | none => ⟨.error .notConfigured, [], panel⟩
  | some host =>
    let report := sequence host
    let begun := .noted (.begun panel.name operation)
    match report.outcome with
    | .ok () =>
      ⟨.ok (), begun :: report.events ++ [.noted (.completed panel.name operation)],
        { panel with host := some report.state, state := target }⟩
    | .error fault =>
      ⟨.error (.stopped fault),
        begun :: report.events ++ [.noted (.aborted panel.name operation fault)],
        { panel with host := some report.state, state := .uninitialized }⟩

/-- Bring the panel up. A panel that displays already is brought up all the same, with a warning. -/
def bringUp [Host σ] : Run Error (Panel σ) Unit :=
  guarded .bringUp fun panel =>
    -- The warning comes first, even if it then turns out that there is no host.
    let earlier := if panel.state = .active then [.noted (.repeated panel.name)] else []
    (transition .bringUp .active panel.model.up panel).after earlier

/-- Put the panel to sleep and power it down. -/
def suspend [Host σ] : Run Error (Panel σ) Unit :=
  guarded .suspend fun panel => transition .suspend .suspended panel.model.down panel

/-- Bring the panel up after it was suspended. -/
def resume [Host σ] : Run Error (Panel σ) Unit :=
  guarded .resume fun panel => transition .resume .active panel.model.up panel

/-! ## How a transition ends -/

section

variable {operation : Operation} {target : Lifecycle} {sequence : Run Fault σ Unit}
  {panel : Panel σ}

theorem transition_of_no_host (bare : panel.host = none) :
    transition operation target sequence panel = ⟨.error .notConfigured, [], panel⟩ := by
  simp [transition, bare]

theorem transition_of_ok {host : σ} (held : panel.host = some host)
    (complete : (sequence host).outcome = .ok ()) :
    transition operation target sequence panel =
      ⟨.ok (),
        .noted (.begun panel.name operation) :: (sequence host).events ++
          [.noted (.completed panel.name operation)],
        { panel with host := some (sequence host).state, state := target }⟩ := by
  simp [transition, held, complete]

theorem transition_of_error {host : σ} {fault : Fault} (held : panel.host = some host)
    (stopped : (sequence host).outcome = .error fault) :
    transition operation target sequence panel =
      ⟨.error (.stopped fault),
        .noted (.begun panel.name operation) :: (sequence host).events ++
          [.noted (.aborted panel.name operation fault)],
        { panel with host := some (sequence host).state, state := .uninitialized }⟩ := by
  simp [transition, held, stopped]

end

/-! ## What an operation comes down to -/

section

variable [Host σ] {panel : Panel σ}

theorem bringUp_of_accepts (accepted : Operation.bringUp.accepts panel.state = true) :
    bringUp panel = (transition .bringUp .active panel.model.up panel).after
      (if panel.state = .active then [.noted (.repeated panel.name)] else []) :=
  guarded_of_accepts accepted _

theorem suspend_of_accepts (accepted : Operation.suspend.accepts panel.state = true) :
    suspend panel = transition .suspend .suspended panel.model.down panel :=
  guarded_of_accepts accepted _

theorem resume_of_accepts (accepted : Operation.resume.accepts panel.state = true) :
    resume panel = transition .resume .active panel.model.up panel :=
  guarded_of_accepts accepted _

theorem bringUp_of_not_accepts (refused : Operation.bringUp.accepts panel.state = false) :
    bringUp panel = ⟨.error (.invalidTransition panel.state .bringUp), [], panel⟩ :=
  guarded_of_not_accepts refused _

theorem suspend_of_not_accepts (refused : Operation.suspend.accepts panel.state = false) :
    suspend panel = ⟨.error (.invalidTransition panel.state .suspend), [], panel⟩ :=
  guarded_of_not_accepts refused _

theorem resume_of_not_accepts (refused : Operation.resume.accepts panel.state = false) :
    resume panel = ⟨.error (.invalidTransition panel.state .resume), [], panel⟩ :=
  guarded_of_not_accepts refused _

end

end Panel

end DsiPanel
