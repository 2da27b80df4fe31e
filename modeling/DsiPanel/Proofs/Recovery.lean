import DsiPanel.Catalog
import DsiPanel.Host.Bench
import DsiPanel.Proofs.History
import DsiPanel.Proofs.Limits

/-!
# The way up, from anywhere

A panel can be lost at any call: a fault in the middle of a table leaves it in a state nobody
knows. What makes up for that is that there is only one way up, and that it does not matter where
it starts.

* `resume_repeats_bringUp`: bringing up a panel of which nothing is known, bringing up one that
  displays and resuming one that sleeps are **the same to the host**, call for call, and end the
  same. `Model.moved` is what all three come down to.
* `reaches_and_recovers`: a write that is too long bars the way for good, since a sequence that
  holds one never completes. It is the only thing that does: without one, a panel that has a host
  can be brought up from wherever it got to, and put to sleep after that, as soon as the host
  accepts its calls.

What bars a state is an invariant of the sessions (`Model.Allows`). The way up needs no invariant,
which is the point of it.
-/

set_option autoImplicit false

namespace DsiPanel

variable {σ : Type}

/-! ## One way up -/

/-- The state in which a sequence leaves the panel. -/
def Direction.leaves (direction : Direction) : Except Fault Unit → Lifecycle
  | .ok () => direction.target
  | .error _ => .uninitialized

/-- What a move comes down to, the journal apart: the plan is run on the host, and how that ends
    is the result and decides on the state. -/
def Model.moved [Host σ] (model : Model) (direction : Direction) (host : σ) :
    Report Panel.Error (Panel σ) Unit :=
  let report := (model.plan direction).run host
  { outcome := report.outcome.mapError .stopped
    events := report.events
    state := { model, host := some report.state, state := direction.leaves report.outcome } }

namespace Panel

variable [Host σ]

theorem quiet_transition (operation : Operation) (direction : Direction) {panel : Panel σ}
    {host : σ} (held : panel.host = some host) :
    (transition operation direction.target (panel.model.sequence direction) panel).quiet =
      panel.model.moved direction host := by
  rw [Model.moved, ← Model.sequence_quiet]
  cases ending : (panel.model.sequence direction host).outcome with
  | ok =>
    rw [transition_of_ok held ending]
    simp [Report.quiet, ending, Direction.leaves, Except.mapError]
  | error fault =>
    rw [transition_of_error held ending]
    simp [Report.quiet, ending, Direction.leaves, Except.mapError]

/-- **Bringing up and resuming are the same to the host.** Three panels of a model that hold the
    same host and are in the three states end their ways up alike: the same result, the same calls
    with the same answers, and the same panel in the end. -/
theorem resume_repeats_bringUp (model : Model) (host : σ) :
    let panel (state : Lifecycle) : Panel σ := { model, host := some host, state }
    (bringUp (panel .uninitialized)).quiet = model.moved .up host ∧
      (bringUp (panel .active)).quiet = model.moved .up host ∧
      (resume (panel .suspended)).quiet = model.moved .up host := by
  intro panel
  have way (operation : Operation) (state : Lifecycle) :
      (transition operation .active model.up (panel state)).quiet = model.moved .up host := by
    have held : (panel state).host = some host := rfl
    exact quiet_transition operation .up held
  refine ⟨?_, ?_, ?_⟩
  · rw [bringUp_of_accepts rfl]
    exact way .bringUp .uninitialized
  · -- The journal remarks on the state, and the host does not see the journal.
    rw [bringUp_of_accepts rfl]
    exact way .bringUp .active
  · rw [resume_of_accepts rfl]
    exact way .resume .suspended

end Panel

/-! ## What bars a state -/

namespace Model

theorem refuse_not_mem_plan {model : Model} {direction : Direction} :
    .refuse ∉ model.plan direction ↔ (model.table direction).IsSendable := by
  rw [← @Table.refuse_not_mem_plan true]
  cases direction <;> simp [plan, table, Script.refuse_not_mem_plan]

theorem isSendable_of_complete [Host σ] {model : Model} {direction : Direction} {host : σ}
    (complete : (model.sequence direction host).outcome = .ok ()) :
    (model.table direction).IsSendable := by
  -- A sequence that is complete has asked for its whole plan, and nobody can ask for a refusal.
  have asked := (model.sequence_carried direction host).asked_of_ok complete
  rw [← refuse_not_mem_plan, ← asked]
  intro refused
  obtain ⟨call, -, same⟩ := List.mem_map.mp refused
  cases same

/-- The tables that have to be sent before a panel of the model is in the state can be sent. -/
def Allows (model : Model) : Lifecycle → Prop
  | .uninitialized => True
  | .active => model.initTable.IsSendable
  | .suspended => model.initTable.IsSendable ∧ model.suspendTable.IsSendable

/-- Some host and some session bring a panel of the model into the state. -/
def Reaches (model : Model) (state : Lifecycle) : Prop :=
  ∃ (σ : Type) (_ : Host σ) (host : Option σ) (requests : List (Panel.Request σ)),
    (Panel.serveAll { model, host } requests).2.state = state

end Model

namespace Panel

variable [Host σ]

section

variable {panel : Panel σ} {operation : Operation} {report : Report Error (Panel σ) (Answer σ)}

theorem Ended.allows (ended : Ended panel operation report)
    (allowed : panel.model.Allows panel.state) : panel.model.Allows report.state.state := by
  cases ended with
  | refused | hostless | checked => exact allowed
  | stopped => trivial
  | @completed host direction accepted _ moves complete =>
    have sendable := Model.isSendable_of_complete complete
    cases direction with
    | up => exact sendable
    | down =>
      -- The panel was displaying, which is what the first half asks for.
      rw [Operation.eq_active_of_down moves accepted] at allowed
      exact ⟨allowed, sendable⟩

theorem Ended.isSome_host (ended : Ended panel operation report) :
    report.state.host.isSome = panel.host.isSome := by
  cases ended with
  | refused | hostless => rfl
  | completed _ held | stopped _ held | checked _ held =>
    rw [held]
    rfl

end

theorem serve_allows {panel : Panel σ} (allowed : panel.model.Allows panel.state)
    (request : Request σ) : panel.model.Allows (serve request panel).state.state := by
  cases request with
  | configure | adjust => exact allowed
  | perform operation => exact (ended_perform panel operation).allows allowed

theorem serveAll_model (panel : Panel σ) (requests : List (Request σ)) :
    (serveAll panel requests).2.model = panel.model := by
  induction requests generalizing panel with
  | nil => rfl
  | cons request rest ih => rw [serveAll_cons, ih, serve_model]

/-- **A state that is barred stays barred**, whatever is asked of the panel. -/
theorem serveAll_allows {panel : Panel σ} (allowed : panel.model.Allows panel.state)
    (requests : List (Request σ)) : panel.model.Allows (serveAll panel requests).2.state := by
  induction requests generalizing panel with
  | nil => exact allowed
  | cons request rest ih =>
    have next := serve_allows allowed request
    rw [← serve_model panel request] at next ⊢
    exact ih next

end Panel

theorem Model.Reaches.allows {model : Model} {state : Lifecycle} (reached : model.Reaches state) :
    model.Allows state := by
  obtain ⟨σ, _, host, requests, rfl⟩ := reached
  have fresh : model.Allows .uninitialized := trivial
  exact Panel.serveAll_allows fresh requests

/-! ## No other bar -/

/-- The host accepted every call. -/
def Report.AllAccepted {ε α : Type} (report : Report ε σ α) : Prop :=
  ∀ call ∈ report.calls, call.answer = .ok ()

instance {ε α : Type} (report : Report ε σ α) : Decidable report.AllAccepted :=
  inferInstanceAs (Decidable (∀ call ∈ report.calls, call.answer = .ok ()))

theorem Carried.ok_of_accepted {plan : Plan} {calls : List Call} {ending : Except Fault Unit}
    (carried : Carried plan calls ending) (sendable : .refuse ∉ plan)
    (accepted : ∀ call ∈ calls, call.answer = .ok ()) : ending = .ok () := by
  cases ending with
  | ok => rfl
  | error fault =>
    obtain ⟨earlier, action, rfl⟩ := carried.last_of_error rfl sendable
    have last := accepted ⟨action, .error fault⟩ (List.mem_append_right _ List.mem_cons_self)
    cases last

/-- The operation that brings a panel up from the state. -/
def Lifecycle.wayUp : Lifecycle → Operation
  | .suspended => .resume
  | .uninitialized | .active => .bringUp

theorem Lifecycle.wayUp_accepts (state : Lifecycle) : state.wayUp.accepts state = true := by
  cases state <;> rfl

theorem Lifecycle.wayUp_direction? (state : Lifecycle) : state.wayUp.direction? = some .up := by
  cases state <;> rfl

namespace Panel

variable [Host σ]

/-- The operation succeeds and moves the panel where it is to go, and its whole plan is asked
    for. -/
structure Moves (panel : Panel σ) (operation : Operation) (direction : Direction) : Prop where
  outcome : (perform operation panel).outcome = .ok .done
  state : (perform operation panel).state.state = direction.target
  asked : (perform operation panel).calls.map (fun call => .ask call.action) =
    panel.model.plan direction

/-- As long as its calls are accepted, the panel is brought up from where it is, and put to sleep
    after that. -/
def Recovers (panel : Panel σ) : Prop :=
  let risen := perform panel.state.wayUp panel
  risen.AllAccepted → panel.Moves panel.state.wayUp .up ∧
    ((perform .suspend risen.state).AllAccepted → risen.state.Moves .suspend .down)

section

variable {panel : Panel σ} {operation : Operation} {direction : Direction}

theorem moves_of_accepted (runs : panel.RunsSequence operation)
    (moves : operation.direction? = some direction)
    (sendable : (panel.model.table direction).IsSendable)
    (accepted : (perform operation panel).AllAccepted) : panel.Moves operation direction := by
  have ended := ended_perform panel operation
  obtain ⟨way, ending, same, carried, outcome⟩ := ended.of_runsSequence runs
  cases same.symm.trans moves
  have complete := carried.ok_of_accepted (Model.refuse_not_mem_plan.mpr sendable) accepted
  rw [complete] at outcome
  exact ⟨outcome, (ended.of_ok outcome).trans (Operation.target_of_direction? moves panel.state),
    carried.asked_of_ok complete⟩

theorem recovers_of_isSendable (holds : panel.host.isSome = true)
    (init : panel.model.initTable.IsSendable) (suspends : panel.model.suspendTable.IsSendable) :
    panel.Recovers := by
  unfold Recovers
  intro risen accepted
  have ended : Ended panel panel.state.wayUp risen := ended_perform panel panel.state.wayUp
  have runs : panel.RunsSequence panel.state.wayUp :=
    ⟨by rw [Lifecycle.wayUp_direction?]; rfl, Lifecycle.wayUp_accepts panel.state, holds⟩
  have up : panel.Moves panel.state.wayUp .up :=
    moves_of_accepted runs (Lifecycle.wayUp_direction? panel.state) init accepted
  refine ⟨up, fun acceptedDown => ?_⟩
  have runsDown : risen.state.RunsSequence .suspend := by
    refine ⟨rfl, ?_, ended.isSome_host.trans holds⟩
    rw [show risen.state.state = .active from up.state]
    rfl
  refine moves_of_accepted runsDown rfl ?_ acceptedDown
  rw [ended.model]
  exact suspends

end

end Panel

/-! ## A host that is willing -/

theorem Plan.allAccepted [Host σ] (willing : ∀ action (host : σ), (Host.act action host).1 = .ok ())
    (plan : Plan) (host : σ) : (plan.run host).AllAccepted := by
  induction plan generalizing host with
  | nil => exact nofun
  | cons demand rest ih =>
    cases demand with
    | refuse => exact nofun
    | ask action =>
      have met : ((Demand.ask action).run host).outcome = .ok () := willing action host
      rw [run_cons, Run.bind_of_ok met]
      intro call among
      rcases List.mem_cons.mp among with rfl | later
      · exact willing action host
      · exact ih _ call later

namespace Panel

theorem Ended.allAccepted [Host σ]
    (willing : ∀ action (host : σ), (Host.act action host).1 = .ok ())
    {panel : Panel σ} {operation : Operation} {report : Report Error (Panel σ) (Answer σ)}
    (ended : Ended panel operation report) : report.AllAccepted := by
  intro call among
  cases ended with
  | refused => cases among
  | hostless => simp [Report.calls] at among
  | @completed host direction | @stopped host direction =>
    have made : call ∈ (panel.model.sequence direction host).calls := by
      simpa [Report.calls] using among
    rw [← Report.calls_quiet, ← Run.quiet_apply, Model.sequence_quiet] at made
    exact Plan.allAccepted willing _ host call made
  | @checked host =>
    have read : call ∈ (panel.model.isAlive host).calls := among
    rw [Model.calls_isAlive] at read
    cases read

end Panel

namespace Model

variable {model : Model}

theorem reaches_active (init : model.initTable.IsSendable) : model.Reaches .active := by
  let panel : Panel Willing := .withHost model ⟨⟩
  have accepted := (Panel.ended_perform panel .bringUp).allAccepted fun _ _ => rfl
  have up : panel.Moves .bringUp .up :=
    Panel.moves_of_accepted ⟨rfl, rfl, rfl⟩ rfl init accepted
  exact ⟨Willing, inferInstance, some ⟨⟩, [.perform .bringUp], up.state⟩

theorem reaches_suspended (init : model.initTable.IsSendable)
    (suspends : model.suspendTable.IsSendable) : model.Reaches .suspended := by
  let panel : Panel Willing := .withHost model ⟨⟩
  have willing : ∀ action (host : Willing), (Host.act action host).1 = .ok () := fun _ _ => rfl
  have accepted := (Panel.ended_perform panel .bringUp).allAccepted willing
  have recovers : panel.Recovers := Panel.recovers_of_isSendable rfl init suspends
  obtain ⟨-, down⟩ := recovers accepted
  have acceptedDown :=
    (Panel.ended_perform (Panel.perform .bringUp panel).state .suspend).allAccepted willing
  exact ⟨Willing, inferInstance, some ⟨⟩, [.perform .bringUp, .perform .suspend],
    (down acceptedDown).state⟩

/-- **What can be reached, and that there is always a way on.** A write that is too long is all
    that keeps panels of a model from displaying, or from sleeping. Without one, every panel that
    has a host recovers, whatever was asked of it and whatever failed. -/
theorem reaches_and_recovers (model : Model) :
    (model.Reaches .active ↔ model.initTable.IsSendable) ∧
      (model.Reaches .suspended ↔
        model.initTable.IsSendable ∧ model.suspendTable.IsSendable) ∧
      (model.initTable.IsSendable → model.suspendTable.IsSendable →
        ∀ {σ : Type} [Host σ] (host : Option σ) (requests : List (Panel.Request σ)),
          let panel := (Panel.serveAll { model, host } requests).2
          panel.host.isSome = true → panel.Recovers) := by
  refine ⟨⟨Reaches.allows, reaches_active⟩, ⟨Reaches.allows, fun ⟨init, suspends⟩ =>
    reaches_suspended init suspends⟩, ?_⟩
  intro init suspends σ _ host requests panel holds
  have same : panel.model = model := Panel.serveAll_model { model, host } requests
  apply Panel.recovers_of_isSendable holds
  · rw [same]
    exact init
  · rw [same]
    exact suspends

end Model

/-- The Helitai panel, whose host gives out in the middle of the power-on script and is seen to. -/
theorem Catalog.st7703_recovers :
    let host : Fused := ⟨5, .transport⟩
    let requests : List (Panel.Request Fused) :=
      [.perform .bringUp, .adjust fun host => { host with left := 100 }]
    let panel := (Panel.serveAll (.withHost st7703 host) requests).2
    let risen := Panel.perform .bringUp panel
    panel.state = .uninitialized ∧ risen.AllAccepted ∧
      (Panel.perform .suspend risen.state).AllAccepted ∧
      panel.Moves .bringUp .up ∧ risen.state.Moves .suspend .down := by
  intro host requests panel risen
  have lost : panel.state = .uninitialized := by decide +kernel
  have accepted : risen.AllAccepted := by decide +kernel
  have acceptedDown : (Panel.perform .suspend risen.state).AllAccepted := by decide +kernel
  have init : st7703.initTable.IsSendable := by decide
  have suspends : st7703.suspendTable.IsSendable := by decide
  have holds : panel.host.isSome = true := by decide +kernel
  have recovers : panel.Recovers :=
    (Model.reaches_and_recovers st7703).2.2 init suspends (some host) requests holds
  obtain ⟨up, down⟩ := recovers accepted
  exact ⟨lost, accepted, acceptedDown, up, down acceptedDown⟩

end DsiPanel
