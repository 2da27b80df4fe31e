import DsiPanel.Proofs.Carry
import DsiPanel.Proofs.PartFaults

/-!
# Rails behind one pin

A supply of fixed voltage and order can do no more than drive the enable pin of its rails
(`PinRail`). Asked to switch them, it drives the pin, and what order and what voltage it was asked
for is lost on it. So on a board with such a supply a power script may as well have the pin driven
in the first place. `Script.pinned` is the script written that way, and `Model.pinned` the model
with both of its scripts written that way.

> **No part of such a board can tell a script from its pinned form**, nor can the caller of a
> panel tell the two models apart by what it is returned (`pinning_is_unheard`).

The journal can tell, since it names the steps. So the two reports are not the same, but one is
the other with its events pinned: what runs carries over, line by line and action by action
(`pinned_congruence`). What the parts are called with is read off the events, where pinning them
makes no difference (`Board.pinCalls_pinned`).
-/

set_option autoImplicit false

namespace DsiPanel

/-! ## Pinning -/

def Step.pinned : Step → Step
  | .bias enable _ _ => .biasPin (.ofBool enable)
  | step => step

def Script.pinned (script : Script) : Script :=
  script.map Step.pinned

def Model.pinned (model : Model) : Model :=
  { model with powerOn := model.powerOn.pinned, powerOff := model.powerOff.pinned }

def Panel.pinned {σ : Type} (panel : Panel σ) : Panel σ :=
  { panel with model := panel.model.pinned }

def Action.pinned : Action → Action
  | .bias enable _ _ => .biasPin (.ofBool enable)
  | action => action

theorem Step.action_pinned (step : Step) : step.pinned.action = step.action.pinned := by
  cases step <;> rfl

def Journal.Line.pinned : Journal.Line → Journal.Line
  | .attempted step => .attempted step.pinned
  | line => line

def Event.pinned : Event → Event
  | .noted line => .noted line.pinned
  | .acted action answer => .acted action.pinned answer
  | .read register offered answer filled => .read register offered answer filled

theorem Script.corresponds_pinned (script : Script) :
    List.Forall₂ (Step.Corresponds (Journal.Line.pinned · = ·) (Action.pinned · = ·)) script
      script.pinned :=
  List.forall₂_map_right_iff.mpr
    (List.forall₂_same.mpr fun step _ => ⟨rfl, step.action_pinned.symm⟩)

theorem Model.corresponds_pinned (model : Model) :
    Model.Corresponds (Journal.Line.pinned · = ·) (Action.pinned · = ·) model model.pinned where
  name := rfl
  datasheet := rfl
  initTable := rfl
  suspendTable := rfl
  tables := ⟨fun _ _ => rfl, fun _ _ => rfl, fun _ => rfl, fun _ => rfl, fun _ _ _ => rfl⟩
  powerOn := model.powerOn.corresponds_pinned
  powerOff := model.powerOff.corresponds_pinned

/-! ## The step that fails -/

/-- The step with that index is the one that fails. -/
def Script.FailsAt {σ : Type} [Host σ] (script : Script) (host : σ) (index : Nat) (fault : Fault) :
    Prop :=
  (play (script.take index) host).outcome = .ok () ∧
    (play (script.take (index + 1)) host).outcome = .error fault

/-! ## On a board whose rails are behind one pin -/

/-- The call on the enable pin itself, where it is behind the supply that is called. -/
def PartCall.atPin : PartCall → PartCall
  | .railSwitch enable _ _ accepted => .railPin (.ofBool enable) accepted
  | call => call

section

variable {β ρ π δ : Type} [Bus β] [OutputPin ρ] [OutputPin π] [Timer δ]

namespace Board

theorem act_pinned (board : Board β ρ (PinRail π) δ) (action : Action) :
    board.act action.pinned = board.act action := by
  cases action <;> rfl

omit [Timer δ] in
theorem atPin_partCall_pinned (board : Board β ρ (PinRail π) δ) (action : Action) :
    (board.partCall action.pinned).atPin = (board.partCall action).atPin := by
  cases action <;> rfl

/-- The calls on the four parts, the enable pin of the rails being one of them. -/
def pinCalls (board : Board β ρ (PinRail π) δ) (events : List Event) : List PartCall :=
  (board.partCalls events).map PartCall.atPin

theorem pinCalls_pinned (board : Board β ρ (PinRail π) δ) (events : List Event) :
    board.pinCalls (events.map Event.pinned) = board.pinCalls events := by
  unfold pinCalls
  induction events generalizing board with
  | nil => rfl
  | cons event rest ih =>
    cases event with
    | noted line => exact ih board
    | acted action answer =>
      simp only [List.map_cons, Event.pinned, partCalls, act_pinned, atPin_partCall_pinned, ih]
    | read register offered answer filled =>
      simp only [List.map_cons, Event.pinned, partCalls, ih]

end Board

/-- **On such a board a run may be carried over to one with its lines and actions pinned.** -/
theorem pinned_congruence :
    Run.Congruence (Journal.Line.pinned · = ·) (Action.pinned · = ·) fun α
      (run image : Run Fault (Board β ρ (PinRail π) δ) α) => run.Carries Event.pinned id image :=
  Run.Carries.congruence Journal.Line.pinned Action.pinned (fun _ => rfl) (fun _ _ => rfl)
    fun action board => board.act_pinned action

theorem Script.play_pinned (script : Script) :
    Run.Carries Event.pinned id (script.play : Run Fault (Board β ρ (PinRail π) δ) Unit)
      script.pinned.play :=
  pinned_congruence.play script.corresponds_pinned

theorem Script.outcome_play_take_pinned (script : Script) (board : Board β ρ (PinRail π) δ)
    (count : Nat) :
    (play (script.pinned.take count) board).outcome = (play (script.take count) board).outcome := by
  have taken : script.pinned.take count = pinned (script.take count) := List.map_take.symm
  rw [taken]
  exact (play_pinned (script.take count)).outcome_eq board

theorem Script.failsAt_pinned_iff (script : Script) (board : Board β ρ (PinRail π) δ) (index : Nat)
    (fault : Fault) :
    script.pinned.FailsAt board index fault ↔ script.FailsAt board index fault := by
  unfold FailsAt
  rw [outcome_play_take_pinned, outcome_play_take_pinned]

theorem Model.sequence_pinned (model : Model) (direction : Direction) :
    Run.Carries Event.pinned id
      (model.sequence direction : Run Fault (Board β ρ (PinRail π) δ) Unit)
      (model.pinned.sequence direction) :=
  pinned_congruence.sequence model.corresponds_pinned direction

theorem Model.isAlive_pinned (model : Model) :
    Run.Carries Event.pinned id (model.isAlive : Run Fault (Board β ρ (PinRail π) δ) Bool)
      model.pinned.isAlive :=
  pinned_congruence.isAlive ⟨fun _ _ _ _ => rfl, fun _ _ _ => rfl⟩ model.corresponds_pinned

end

/-! ## Panels -/

namespace Panel

theorem carrier_pinned {σ : Type} : Carrier Event.pinned id (Panel.pinned : Panel σ → Panel σ) :=
  ⟨fun _ => Option.map_id_apply.symm, fun _ => rfl, fun _ _ _ => rfl, fun _ => rfl, fun _ _ => rfl,
    fun _ _ => rfl, fun _ _ _ => rfl⟩

variable {β ρ π δ : Type} [Bus β] [OutputPin ρ] [OutputPin π] [Timer δ]

theorem perform_pinned (operation : Operation) :
    Run.Carries Event.pinned Panel.pinned
      (perform operation : Run Error (Panel (Board β ρ (PinRail π) δ)) (Answer _))
      (perform operation) := by
  cases operation with
  | bringUp => exact .map _ (carrier_pinned.bringUp fun panel => panel.model.sequence_pinned)
  | suspend => exact .map _ (carrier_pinned.suspend fun panel => panel.model.sequence_pinned)
  | resume => exact .map _ (carrier_pinned.resume fun panel => panel.model.sequence_pinned)
  | checkLiveness =>
    exact .map _ (carrier_pinned.checkLiveness fun panel => panel.model.isAlive_pinned)

theorem serve_pinned (request : Request (Board β ρ (PinRail π) δ)) :
    Run.Carries Event.pinned Panel.pinned (serve request) (serve request) := by
  cases request with
  | configure host =>
    intro panel
    rfl
  | adjust change =>
    intro panel
    rfl
  | perform operation => exact perform_pinned operation

theorem serveAll_pinned (panel : Panel (Board β ρ (PinRail π) δ))
    (requests : List (Request (Board β ρ (PinRail π) δ))) :
    panel.pinned.serveAll requests =
      ((panel.serveAll requests).1.map (Report.carried Event.pinned Panel.pinned),
        (panel.serveAll requests).2.pinned) := by
  have served : panel.pinned.serveAll (requests.map id) = _ :=
    serveAll_carried (fun _ => rfl) serve_pinned panel requests
  rwa [List.map_id] at served

/-- The calls on the parts of the board that a panel holds. -/
def pinCalls (panel : Panel (Board β ρ (PinRail π) δ)) (events : List Event) : List PartCall :=
  match panel.host with
  | none => []
  | some board => board.pinCalls events

/-- The calls on the parts while requests are served, request by request. -/
def pinCallsAll (panel : Panel (Board β ρ (PinRail π) δ)) :
    List (Request (Board β ρ (PinRail π) δ)) → List (List PartCall)
  | [] => []
  | request :: rest =>
    let report := serve request panel
    panel.pinCalls report.events :: pinCallsAll report.state rest

theorem pinCalls_pinned (panel : Panel (Board β ρ (PinRail π) δ)) (events : List Event) :
    panel.pinned.pinCalls (events.map Event.pinned) = panel.pinCalls events := by
  cases held : panel.host with
  | none => simp [pinCalls, pinned, held]
  | some board => simp [pinCalls, pinned, held, board.pinCalls_pinned]

theorem pinCallsAll_pinned (panel : Panel (Board β ρ (PinRail π) δ))
    (requests : List (Request (Board β ρ (PinRail π) δ))) :
    panel.pinned.pinCallsAll requests = panel.pinCallsAll requests := by
  induction requests generalizing panel with
  | nil => rfl
  | cons request rest ih =>
    rw [pinCallsAll, pinCallsAll, serve_pinned request panel]
    exact congrArg₂ List.cons (panel.pinCalls_pinned _) (ih _)

/-- **No part of a board whose rails are behind one pin can tell a script from its pinned form**,
    and nor can the caller of a panel. A script comes first, with the step it fails at, and then any
    sequence of requests to a panel in any state. -/
theorem pinning_is_unheard :
    (∀ (script : Script) (board : Board β ρ (PinRail π) δ),
      (script.pinned.play board).outcome = (script.play board).outcome ∧
      (script.pinned.play board).state = (script.play board).state ∧
      (∀ index fault, script.pinned.FailsAt board index fault ↔ script.FailsAt board index fault) ∧
      board.pinCalls (script.pinned.play board).events =
        board.pinCalls (script.play board).events) ∧
    ∀ (panel : Panel (Board β ρ (PinRail π) δ))
      (requests : List (Request (Board β ρ (PinRail π) δ))),
      let served := panel.serveAll requests
      let pinnedServed := panel.pinned.serveAll requests
      pinnedServed.1.map Report.outcome = served.1.map Report.outcome ∧
      pinnedServed.1.map Report.state = served.1.map (fun report => report.state.pinned) ∧
      pinnedServed.2 = served.2.pinned ∧
      panel.pinned.pinCallsAll requests = panel.pinCallsAll requests := by
  constructor
  · intro script board
    have same : script.pinned.play board = (script.play board).carried Event.pinned id :=
      script.play_pinned board
    rw [same]
    exact ⟨rfl, rfl, script.failsAt_pinned_iff board, board.pinCalls_pinned _⟩
  · intro panel requests served pinnedServed
    have same : pinnedServed =
        (served.1.map (Report.carried Event.pinned Panel.pinned), served.2.pinned) :=
      panel.serveAll_pinned requests
    rw [same]
    refine ⟨?_, ?_, rfl, panel.pinCallsAll_pinned requests⟩
    · rw [List.map_map]
      rfl
    · rw [List.map_map]
      rfl

end Panel

end DsiPanel
