import DsiPanel.Proofs.Ending

/-!
# What the calls so far tell

The state of the hardware is hidden: all that is known of a pin, a rail or a register page is
what the host accepted so far. So a statement about the hardware is one about the **history**, the
list of all calls up to some moment, and what it tells is found by going over it once: a `Watch`
starts from something known and learns from one call after the other.

This file brings such statements down to the plans of a model, where they are settled by going
over a list.

* `Watch.permits_of_carried`: to know that every call a sequence makes is permitted, whatever fails
  on the way, it is enough to go over its plan as if everything in it were accepted (`clears`). A
  call that failed has no successor in its sequence, so the calls before any call were accepted.
* `Tracks.performAll`: to know what holds in each state of the lifecycle after any operations, it
  is enough to look at a complete way up and at a complete way down. What is left behind by a
  sequence that stopped is not looked at, because nothing is expected of a panel then.
-/

set_option autoImplicit false

namespace DsiPanel

variable {σ κ : Type}

/-! ## Transfers -/

def Action.isWrite : Action → Bool
  | .write .. => true
  | _ => false

def Event.isWrite : Event → Bool
  | .acted action _ => action.isWrite
  | _ => false

def Event.isRead : Event → Bool
  | .read .. => true
  | _ => false

theorem Event.acted_of_isWrite {event : Event} (writes : event.isWrite = true) :
    ∃ action answer, event = .acted action answer ∧ action.isWrite = true := by
  cases event with
  | noted | read => cases writes
  | acted action answer => exact ⟨action, answer, rfl, writes⟩

/-! ## Going over a plan -/

/-- What is known after a plan in which every call was accepted. -/
def Plan.expect (learn : κ → Call → κ) (known : κ) : Plan → κ
  | [] => known
  | .ask action :: rest => expect learn (learn known ⟨action, .ok ()⟩) rest
  | .refuse :: rest => expect learn known rest

theorem Plan.expect_append (learn : κ → Call → κ) (known : κ) (first second : Plan) :
    expect learn known (first ++ second) = expect learn (expect learn known first) second := by
  induction first generalizing known with
  | nil => rfl
  | cons demand rest ih =>
    cases demand with
    | ask action => exact ih _
    | refuse => exact ih _

theorem Carried.foldl_eq_expect {learn : κ → Call → κ} {known : κ} {plan : Plan}
    {calls : List Call} {ending : Except Fault Unit} (carried : Carried plan calls ending)
    (complete : ending = .ok ()) : calls.foldl learn known = plan.expect learn known := by
  induction carried generalizing known with
  | complete => rfl
  | accepted _ ih => exact ih complete
  | failed | refused => cases complete

/-- Something that learns from calls, and does not permit every action at every time. -/
structure Watch (κ : Type) where
  learn : κ → Call → κ
  permits : κ → Action → Bool

namespace Watch

variable {watch : Watch κ} {known : κ}

/-- What is known after some calls. -/
def follow (watch : Watch κ) (known : κ) (calls : List Call) : κ :=
  calls.foldl watch.learn known

/-- Every action of the plan is permitted once those before it were accepted. -/
def clears (watch : Watch κ) (known : κ) : Plan → Bool
  | [] => true
  | .ask action :: rest =>
    watch.permits known action && clears watch (watch.learn known ⟨action, .ok ()⟩) rest
  | .refuse :: _ => true

theorem clears_append {first second : Plan} (clearsFirst : watch.clears known first = true)
    (clearsSecond : watch.clears (first.expect watch.learn known) second = true) :
    watch.clears known (first ++ second) = true := by
  induction first generalizing known with
  | nil => exact clearsSecond
  | cons demand rest ih =>
    cases demand with
    | refuse => rfl
    | ask action =>
      obtain ⟨permitted, clearsRest⟩ := Bool.and_eq_true_iff.mp clearsFirst
      exact Bool.and_eq_true_iff.mpr ⟨permitted, ih clearsRest clearsSecond⟩

theorem clears_of_permits (permissive : ∀ known action, watch.permits known action = true)
    (plan : Plan) : watch.clears known plan = true := by
  induction plan generalizing known with
  | nil => rfl
  | cons demand rest ih =>
    cases demand with
    | refuse => rfl
    | ask action => exact Bool.and_eq_true_iff.mpr ⟨permissive known action, ih⟩

/-- **Whatever fails on the way**, a plan that is cleared makes no call that is not permitted. -/
theorem permits_of_carried {plan : Plan} {calls : List Call} {ending : Except Fault Unit}
    (carried : Carried plan calls ending) (cleared : watch.clears known plan = true)
    {before later : List Call} {call : Call} (split : calls = before ++ call :: later) :
    watch.permits (watch.follow known before) call.action = true := by
  induction carried generalizing known before with
  | complete | refused => simp at split
  | failed =>
    -- There is only one call, the one that failed.
    cases before with
    | nil =>
      cases split
      exact (Bool.and_eq_true_iff.mp cleared).1
    | cons => simp at split
  | accepted _ ih =>
    obtain ⟨permitted, clearsRest⟩ := Bool.and_eq_true_iff.mp cleared
    cases before with
    | nil =>
      cases split
      exact permitted
    | cons first rest =>
      obtain ⟨rfl, splitRest⟩ := List.cons.inj split
      exact ih clearsRest splitRest

end Watch

/-! ## A panel that is only driven by operations -/

namespace Panel

variable [Host σ]

def performAll (panel : Panel σ) (operations : List Operation) :
    List (Report Error (Panel σ) (Answer σ)) × Panel σ :=
  panel.serveAll (operations.map .perform)

def history (panel : Panel σ) (operations : List Operation) : List Call :=
  (panel.performAll operations).1.flatMap Report.calls

theorem performAll_cons (panel : Panel σ) (operation : Operation) (rest : List Operation) :
    (panel.performAll (operation :: rest)).2 =
      ((perform operation panel).state.performAll rest).2 := rfl

theorem history_cons (panel : Panel σ) (operation : Operation) (rest : List Operation) :
    panel.history (operation :: rest) =
      (perform operation panel).calls ++ (perform operation panel).state.history rest := rfl

theorem calls_of_split {panel : Panel σ} {operation : Operation} {before later : List Event}
    {action : Action} {answer : Except Fault Unit}
    (split : (perform operation panel).events = before ++ .acted action answer :: later) :
    (perform operation panel).calls = callsOf before ++ ⟨action, answer⟩ :: callsOf later := by
  simp [Report.calls, split]

/-- **A watch that clears the plan of an operation permits every call of it**, whatever fails. -/
theorem permits_of_split {panel : Panel σ} {operation : Operation} (watch : Watch κ) (known : κ)
    (cleared : ∀ direction, operation.direction? = some direction →
      operation.accepts panel.state = true →
      watch.clears known (panel.model.plan direction) = true)
    {before later : List Event} {action : Action} {answer : Except Fault Unit}
    (split : (perform operation panel).events = before ++ .acted action answer :: later) :
    watch.permits (watch.follow known (callsOf before)) action = true := by
  have calls := calls_of_split split
  obtain ⟨direction, ending, moves, accepted, carried⟩ :=
    (ended_perform panel operation).carried (by simp [calls])
  exact Watch.permits_of_carried carried (cleared direction moves accepted) calls

/-- A read stands in a check of a panel that displays, and no call stands before it. -/
theorem checks_of_split {panel : Panel σ} {operation : Operation} {before later : List Event}
    {register : UInt32} {offered filled : List UInt8} {answer : Except Fault Nat}
    (split : (perform operation panel).events =
      before ++ .read register offered answer filled :: later) :
    operation = .checkLiveness ∧ panel.state = .active ∧ callsOf before = [] := by
  have happened : .read register offered answer filled ∈ (perform operation panel).events := by
    rw [split]
    exact List.mem_append_right _ List.mem_cons_self
  obtain ⟨checks, displays, silent⟩ := (ended_perform panel operation).of_read happened
  refine ⟨checks, displays, ?_⟩
  rw [Report.calls, split, callsOf_append] at silent
  exact (List.append_eq_nil_iff.mp silent).1

theorem performAll_model (panel : Panel σ) (operations : List Operation) :
    (panel.performAll operations).2.model = panel.model := by
  induction operations generalizing panel with
  | nil => rfl
  | cons operation rest ih =>
    rw [performAll_cons, ih, (ended_perform panel operation).model]

end Panel

/-! ## What is known in each state of the lifecycle -/

/-- Only a panel that displays is on its way down. -/
theorem Operation.eq_active_of_down {operation : Operation} {state : Lifecycle}
    (down : operation.direction? = some .down) (accepted : operation.accepts state = true) :
    state = .active := by
  cases operation with
  | suspend =>
    cases state with
    | active => rfl
    | uninitialized | suspended => cases accepted
  | bringUp | resume | checkLiveness => cases down

/-- What is learnt from calls is as expected in each state that the sequences of the model lead to.
    Nothing is expected while nothing is known about the panel. -/
structure Tracks (learn : κ → Call → κ) (model : Model) (expected : Lifecycle → κ → Prop) :
    Prop where
  lost : ∀ known, expected .uninitialized known
  up : ∀ known, expected .active ((model.plan .up).expect learn known)
  down : ∀ known, expected .active known →
    expected .suspended ((model.plan .down).expect learn known)

namespace Tracks

variable [Host σ] {learn : κ → Call → κ} {expected : Lifecycle → κ → Prop}

theorem perform {panel : Panel σ} (tracks : Tracks learn panel.model expected)
    (operation : Operation) {known : κ} (before : expected panel.state known) :
    expected (Panel.perform operation panel).state.state
      ((Panel.perform operation panel).calls.foldl learn known) := by
  have ended := Panel.ended_perform panel operation
  by_cases runs : panel.RunsSequence operation
  · obtain ⟨direction, ending, moves, carried, outcome⟩ := ended.of_runsSequence runs
    cases ending with
    | ok =>
      rw [carried.foldl_eq_expect rfl, ended.of_ok outcome, Operation.target_of_direction? moves]
      cases direction with
      | up => exact tracks.up known
      | down =>
        rw [Operation.eq_active_of_down moves runs.2.1] at before
        exact tracks.down known before
    | error fault =>
      -- However far the sequence came, nothing is expected of the panel now.
      rw [(ended.of_stopped outcome (by simp [moves])).1]
      exact tracks.lost _
  · obtain ⟨calls, state⟩ := ended.of_not_runsSequence runs
    rw [calls, state]
    exact before

/-- **What is expected holds after any operations, whatever failed among them.** -/
theorem performAll {panel : Panel σ} (tracks : Tracks learn panel.model expected)
    (operations : List Operation) {known : κ} (before : expected panel.state known) :
    expected (panel.performAll operations).2.state
      ((panel.history operations).foldl learn known) := by
  induction operations generalizing panel known with
  | nil => exact before
  | cons operation rest ih =>
    rw [Panel.performAll_cons, Panel.history_cons, List.foldl_append]
    refine ih ?_ (tracks.perform operation before)
    rw [(Panel.ended_perform panel operation).model]
    exact tracks

end Tracks

/-! ## At every moment of every run -/

/-- Whatever operations are performed on a panel of the model, and whatever its host answers, this
    holds of every event, together with the calls of the operations before, the calls that its own
    operation made so far, and that operation. -/
def Model.Always (model : Model) (holds : List Call → List Call → Operation → Event → Prop) :
    Prop :=
  ∀ {σ : Type} [Host σ] (host : σ) (operations : List Operation) (operation : Operation)
    (before : List Event) (event : Event) (later : List Event),
    let start := Panel.withHost model host
    (Panel.perform operation (start.performAll operations).2).events = before ++ event :: later →
      holds (start.history operations) (callsOf before) operation event

namespace Tracks

variable {learn : κ → Call → κ} {model : Model} {expected : Lifecycle → κ → Prop}

theorem expected_of_withHost [Host σ] (tracks : Tracks learn model expected) (fresh : κ) (host : σ)
    (operations : List Operation) :
    expected ((Panel.withHost model host).performAll operations).2.state
      (((Panel.withHost model host).history operations).foldl learn fresh) :=
  performAll tracks operations (tracks.lost fresh)

/-- A watch of single operations, which enters each of them with what is known from those before,
    permits every call if it clears the plans from what can be expected. -/
theorem always_permits {ρ : Type} (tracks : Tracks learn model expected) (fresh : κ)
    (watch : Operation → Watch ρ) (enter : κ → ρ)
    (cleared : ∀ {operation direction state known}, operation.direction? = some direction →
      operation.accepts state = true → expected state known →
      (watch operation).clears (enter known) (model.plan direction) = true) :
    model.Always fun past before operation event => ∀ action answer,
      event = .acted action answer →
        (watch operation).permits
          ((watch operation).follow (enter (past.foldl learn fresh)) before) action = true := by
  rintro σ _ host operations operation before event later start split action answer rfl
  have sofar := tracks.expected_of_withHost fresh host operations
  refine Panel.permits_of_split (watch operation) _ (fun direction moves accepted => ?_) split
  rw [Panel.performAll_model]
  exact cleared moves accepted sofar

/-- The same for watches that go by what is tracked itself. -/
theorem always_permits_tracked (tracks : Tracks learn model expected) (fresh : κ)
    (watch : Operation → Watch κ) (follows : ∀ operation, (watch operation).learn = learn)
    (cleared : ∀ {operation direction state known}, operation.direction? = some direction →
      operation.accepts state = true → expected state known →
      (watch operation).clears known (model.plan direction) = true) :
    model.Always fun past before operation event => ∀ action answer,
      event = .acted action answer →
        (watch operation).permits ((past ++ before).foldl learn fresh) action = true := by
  intro σ _ host operations operation before event later start split action answer acted
  have permitted := tracks.always_permits fresh watch id cleared host operations operation before
    event later split action answer acted
  rw [Watch.follow, follows] at permitted
  rw [List.foldl_append]
  exact permitted

/-- A read finds what is expected while the panel displays. -/
theorem always_reads (tracks : Tracks learn model expected) (fresh : κ) :
    model.Always fun past before _ event => event.isRead = true →
      expected .active ((past ++ before).foldl learn fresh) := by
  intro σ _ host operations operation before event later start split reads
  cases event with
  | noted | acted => cases reads
  | read =>
    obtain ⟨-, displays, silent⟩ := Panel.checks_of_split split
    rw [silent, List.append_nil, ← displays]
    exact tracks.expected_of_withHost fresh host operations

end Tracks

end DsiPanel
