import DsiPanel.Lifecycle
import DsiPanel.Model
import DsiPanel.Run

/-!
# Panels

A panel is a model, the host it is driven through once there is one, and what is known about its
state. The host can be given, exchanged and looked at in every state. What a panel does with it is
in the modules beside this one: `Transition` moves the panel through its lifecycle, `Liveness`
asks whether it is well, and `Session` strings such calls together.
-/

set_option autoImplicit false

namespace DsiPanel

/-! ## Errors -/

/-- Why an operation on a panel did not succeed. -/
inductive Panel.Error where
  /-- the sequence of the operation stopped at a fault -/
  | stopped (fault : Fault)
  /-- there is no host -/
  | notConfigured
  /-- the operation is not accepted in this state -/
  | invalidTransition (state : Lifecycle) (operation : Operation)
  deriving DecidableEq, Repr

/-- The sentence that reports the error. -/
def Panel.Error.message : Panel.Error → String
  | .stopped fault => "interface error: " ++ fault.message
  | .notConfigured => "panel interface not configured"
  | .invalidTransition state operation =>
    operation.name ++ " is not allowed while " ++ state.name

/-! ## The panel -/

/-- A panel, driven through a host of type `σ`. -/
structure Panel (σ : Type) where
  model : Model
  host : Option σ := none
  state : Lifecycle := .uninitialized
  deriving DecidableEq

namespace Panel

variable {σ α : Type}

/-- A panel of the model, still without a host. -/
def ofModel (model : Model) : Panel σ := { model }

/-- A panel of the model that has its host from the start. -/
def withHost (model : Model) (host : σ) : Panel σ := { model, host := some host }

/-- The name of the model. -/
def name (panel : Panel σ) : String := panel.model.name

/-- What is fixed about the panel. -/
def describe (panel : Panel σ) : Datasheet := panel.model.datasheet

/-- The width and the height in pixels. -/
def size (panel : Panel σ) : UInt32 × UInt32 :=
  (panel.describe.width.toUInt32, panel.describe.height.toUInt32)

/-- Give the panel a host, and get back the one it had. Its state does not change: that the new
    host is connected to a panel in the same state is for the caller to know. -/
def configure (host : σ) : Run Error (Panel σ) (Option σ) := fun panel =>
  ⟨.ok panel.host, [.noted (.configured panel.name)], { panel with host := some host }⟩

/-- Do something with the host, if there is one. The panel does not notice. -/
def onHost? (use : σ → α × σ) (panel : Panel σ) : Option α × Panel σ :=
  match panel.host with
  | none => (none, panel)
  | some host =>
    let (answer, after) := use host
    (some answer, { panel with host := some after })

/-- Go on only if the operation is accepted in the state the panel is in. -/
def guarded (operation : Operation) (body : Run Error (Panel σ) α) : Run Error (Panel σ) α :=
  fun panel =>
    if operation.accepts panel.state then body panel
    else ⟨.error (.invalidTransition panel.state operation), [], panel⟩

theorem guarded_of_accepts {operation : Operation} {panel : Panel σ}
    (accepted : operation.accepts panel.state = true) (body : Run Error (Panel σ) α) :
    guarded operation body panel = body panel := by
  simp [guarded, accepted]

/-- An operation that is not accepted leaves no trace. -/
theorem guarded_of_not_accepts {operation : Operation} {panel : Panel σ}
    (refused : operation.accepts panel.state = false) (body : Run Error (Panel σ) α) :
    guarded operation body panel =
      ⟨.error (.invalidTransition panel.state operation), [], panel⟩ := by
  simp [guarded, refused]

end Panel

end DsiPanel
