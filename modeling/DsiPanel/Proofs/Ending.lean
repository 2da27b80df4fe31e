import DsiPanel.Panel.Session
import DsiPanel.Proofs.Plan
import DsiPanel.Proofs.Probing
import DsiPanel.Proofs.Uniform

/-!
# How an operation ends

An operation on a panel has five ways to end: it is refused in this state, there is no host, its
sequence is complete, its sequence stopped, or it was a check and moved nothing. `Ended` lists
them with everything that is left behind, and `ended_perform` says that there is no sixth. Later
modules reason about operations by these five cases. The code of the operations is opened here, and
once more where two panels are compared (`Panel.Carrier`).

The second half is what a caller relies on: **what an operation returns and what it leaves behind
agree** (`outcome_tells_state`). That a host is still held after a fault does not yet say that it
is the same one, so there is a notion for that too: a **badge** is whatever no call changes about
a host, and no operation changes the badge of the host that is held.
-/

set_option autoImplicit false

namespace DsiPanel

variable {σ : Type}

/-! ## Runs that keep the badge of a host -/

/-- What no call changes about a host, such as which host it is. -/
structure KeptByCalls [Host σ] {ι : Type} (badge : σ → ι) : Prop where
  act : ∀ action host, badge (Host.act action host).2 = badge host
  readInto : ∀ {n : Nat} register (buffer : Vector UInt8 n) host,
    badge (Host.readInto register buffer host).2 = badge host

/-- The run leaves a host with the badge it came with, however it ends. -/
def Run.Keeps {ι ε α : Type} (badge : σ → ι) (run : Run ε σ α) : Prop :=
  ∀ host, badge (run host).state = badge host

namespace Run

variable {ι ε α β : Type} {badge : σ → ι}

theorem Keeps.pure (value : α) : Keeps badge (Pure.pure value : Run ε σ α) := fun _ => rfl

theorem Keeps.bind {first : Run ε σ α} {next : α → Run ε σ β} (keepsFirst : Keeps badge first)
    (keepsNext : ∀ value, Keeps badge (next value)) : Keeps badge (first >>= next) := by
  intro host
  cases went : (first host).outcome with
  | ok value =>
    rw [bind_of_ok went, Report.state_after, keepsNext value, keepsFirst]
  | error cause =>
    rw [bind_of_error went]
    exact keepsFirst host

end Run

section

variable [Host σ] {ι : Type} {badge : σ → ι}

/-- A run keeps a badge if the actions that it asks for do. -/
theorem Run.keeps_congruence (badge : σ → ι) :
    Congruence (fun _ _ => True)
      (fun action _ => ∀ host, badge (Host.act action host).2 = badge host)
      fun α (run _ : Run Fault σ α) => run.Keeps badge where
  pure := .pure
  fail _ _ := rfl
  note _ _ := rfl
  act kept := kept
  bind := .bind

theorem Model.sequence_keeps (kept : KeptByCalls badge) (model : Model) (direction : Direction) :
    (model.sequence direction : Run Fault σ Unit).Keeps badge :=
  (Run.keeps_congruence badge).sequence (.of_refl (fun _ => trivial) kept.act model) direction

theorem Model.isAlive_keeps (kept : KeptByCalls badge) (model : Model) :
    (model.isAlive : Run Fault σ Bool).Keeps badge :=
  (Run.keeps_congruence badge).isAlive ⟨fun _ _ _ _ => trivial, kept.readInto⟩
    (.of_refl (fun _ => trivial) kept.act model)

/-! ## A check makes no calls besides its reads -/

theorem Scratch.calls_check (panel : String) (scratch : Scratch) (probes : List Probe)
    (host : σ) : (scratch.check panel probes host).calls = [] := by
  induction probes generalizing scratch host with
  | nil => rfl
  | cons probe rest ih =>
    have taken := scratch.check_taken panel probe rest host
    generalize scratch.check panel (probe :: rest) host = report at taken ⊢
    cases taken with
    | overlong | failed | differs => rfl
    | passed => exact ih _ _

theorem Model.calls_isAlive (model : Model) (host : σ) :
    (model.isAlive host).calls = [] :=
  Scratch.calls_check model.name _ _ host

end

/-! ## The five endings -/

namespace Panel

/-- The remark that stands before anything else: a panel that displays is brought up again. -/
def remarks (panel : Panel σ) (operation : Operation) : List Event :=
  if operation = .bringUp ∧ panel.state = .active then [.noted (.repeated panel.name)] else []

@[simp] theorem callsOf_remarks (panel : Panel σ) (operation : Operation) :
    callsOf (panel.remarks operation) = [] := by
  unfold remarks
  split <;> rfl

/-- The ways an operation on a panel can end, each with the whole report. -/
inductive Ended [Host σ] (panel : Panel σ) (operation : Operation) :
    Report Error (Panel σ) (Answer σ) → Prop where
  | refused (refused : operation.accepts panel.state = false) :
      Ended panel operation ⟨.error (.invalidTransition panel.state operation), [], panel⟩
  | hostless (accepted : operation.accepts panel.state = true) (bare : panel.host = none) :
      Ended panel operation ⟨.error .notConfigured, panel.remarks operation, panel⟩
  | completed {host : σ} {direction : Direction} (accepted : operation.accepts panel.state = true)
      (held : panel.host = some host) (moves : operation.direction? = some direction)
      (complete : (panel.model.sequence direction host).outcome = .ok ()) :
      Ended panel operation
        ⟨.ok .done,
          panel.remarks operation ++ (.noted (.begun panel.name operation) ::
            (panel.model.sequence direction host).events ++
              [.noted (.completed panel.name operation)]),
          { panel with
            host := some (panel.model.sequence direction host).state
            state := direction.target }⟩
  | stopped {host : σ} {direction : Direction} {fault : Fault}
      (accepted : operation.accepts panel.state = true)
      (held : panel.host = some host) (moves : operation.direction? = some direction)
      (stopped : (panel.model.sequence direction host).outcome = .error fault) :
      Ended panel operation
        ⟨.error (.stopped fault),
          panel.remarks operation ++ (.noted (.begun panel.name operation) ::
            (panel.model.sequence direction host).events ++
              [.noted (.aborted panel.name operation fault)]),
          { panel with
            host := some (panel.model.sequence direction host).state
            state := .uninitialized }⟩
  | checked {host : σ} (accepted : operation.accepts panel.state = true)
      (held : panel.host = some host) (still : operation.direction? = none) :
      Ended panel operation
        ⟨((panel.model.isAlive host).outcome.mapError .stopped).map .alive,
          (panel.model.isAlive host).events,
          { panel with host := some (panel.model.isAlive host).state }⟩

section

variable [Host σ]

theorem ended_transition {panel : Panel σ} {operation : Operation} (direction : Direction)
    (accepted : operation.accepts panel.state = true)
    (moves : operation.direction? = some direction) :
    let moved := (transition operation direction.target (panel.model.sequence direction)
      panel).after (panel.remarks operation)
    Ended panel operation ⟨moved.outcome.map fun _ => .done, moved.events, moved.state⟩ := by
  intro moved
  cases held : panel.host with
  | none =>
    have left : moved = ⟨.error .notConfigured, panel.remarks operation, panel⟩ := by
      simp [moved, transition_of_no_host held, Report.after]
    rw [left]
    exact .hostless accepted held
  | some host =>
    cases ending : (panel.model.sequence direction host).outcome with
    | ok =>
      simp only [moved, transition_of_ok held ending, Report.after]
      exact .completed accepted held moves ending
    | error fault =>
      simp only [moved, transition_of_error held ending, Report.after]
      exact .stopped accepted held moves ending

/-- **Every operation ends in one of the five ways.** -/
theorem ended_perform (panel : Panel σ) (operation : Operation) :
    Ended panel operation (perform operation panel) := by
  cases accepted : operation.accepts panel.state with
  | false =>
    have untouched : perform operation panel =
        ⟨.error (.invalidTransition panel.state operation), [], panel⟩ := by
      cases operation with
      | bringUp => rw [perform, Run.map_apply, bringUp_of_not_accepts accepted]; rfl
      | suspend => rw [perform, Run.map_apply, suspend_of_not_accepts accepted]; rfl
      | resume => rw [perform, Run.map_apply, resume_of_not_accepts accepted]; rfl
      | checkLiveness => rw [perform, Run.map_apply, checkLiveness_of_not_accepts accepted]; rfl
    rw [untouched]
    exact .refused accepted
  | true =>
    cases operation with
    | bringUp =>
      -- Only bring-up is accepted in two states, and remarks on one of them.
      rw [perform, Run.map_apply, bringUp_of_accepts accepted]
      have ended := ended_transition .up accepted rfl
      simpa [remarks, Direction.target, Model.sequence] using ended
    | suspend =>
      rw [perform, Run.map_apply, suspend_of_accepts accepted]
      exact ended_transition .down accepted rfl
    | resume =>
      rw [perform, Run.map_apply, resume_of_accepts accepted]
      exact ended_transition .up accepted rfl
    | checkLiveness =>
      cases held : panel.host with
      | none =>
        rw [perform, Run.map_apply, checkLiveness_of_no_host accepted held]
        exact .hostless accepted held
      | some host =>
        rw [perform, Run.map_apply, checkLiveness_of_host accepted held]
        exact .checked accepted held rfl

end

/-! ## With a sequence, and without -/

/-- The operation is to run a sequence, may do so in this state, and has a host to run it on. -/
def RunsSequence (panel : Panel σ) (operation : Operation) : Prop :=
  operation.direction?.isSome = true ∧ operation.accepts panel.state = true ∧
    panel.host.isSome = true

instance (panel : Panel σ) (operation : Operation) : Decidable (panel.RunsSequence operation) :=
  inferInstanceAs (Decidable (_ ∧ _ ∧ _))

section

variable [Host σ] {panel : Panel σ} {operation : Operation}
  {report : Report Error (Panel σ) (Answer σ)}

/-- An operation that runs its sequence carries out the plan of the sequence, and ends as it
    does. -/
theorem Ended.of_runsSequence (ended : Ended panel operation report)
    (runs : panel.RunsSequence operation) :
    ∃ direction ending, operation.direction? = some direction ∧
      Carried (panel.model.plan direction) report.calls ending ∧
      report.outcome = (ending.mapError .stopped).map fun _ => .done := by
  obtain ⟨directed, accepted, holds⟩ := runs
  cases ended with
  | refused refused =>
    rw [accepted] at refused
    cases refused
  | hostless _ bare =>
    rw [bare] at holds
    cases holds
  | checked _ _ still =>
    rw [still] at directed
    cases directed
  | @completed host direction _ _ moves complete =>
    have carried := panel.model.sequence_carried direction host
    rw [complete] at carried
    refine ⟨direction, .ok (), moves, ?_, rfl⟩
    simpa [Report.calls] using carried
  | @stopped host direction fault _ _ moves stopped =>
    have carried := panel.model.sequence_carried direction host
    rw [stopped] at carried
    refine ⟨direction, .error fault, moves, ?_, rfl⟩
    simpa [Report.calls] using carried

/-- Any other operation makes no call besides its reads, and moves nothing. -/
theorem Ended.of_not_runsSequence (ended : Ended panel operation report)
    (still : ¬ panel.RunsSequence operation) :
    report.calls = [] ∧ report.state.state = panel.state := by
  cases ended with
  | refused => exact ⟨rfl, rfl⟩
  | hostless => exact ⟨panel.callsOf_remarks operation, rfl⟩
  | completed accepted held moves | stopped accepted held moves =>
    exact absurd (by simp [RunsSequence, accepted, held, moves]) still
  | checked => exact ⟨Model.calls_isAlive _ _, rfl⟩

/-- **Where there is a call, there is a plan that it is part of.** -/
theorem Ended.carried (ended : Ended panel operation report) (called : report.calls ≠ []) :
    ∃ direction ending, operation.direction? = some direction ∧
      operation.accepts panel.state = true ∧
      Carried (panel.model.plan direction) report.calls ending := by
  by_cases runs : panel.RunsSequence operation
  · obtain ⟨direction, ending, moves, carried, -⟩ := ended.of_runsSequence runs
    exact ⟨direction, ending, moves, runs.2.1, carried⟩
  · exact absurd (ended.of_not_runsSequence runs).1 called

/-- A register is only read by a check of a panel that displays. -/
theorem Ended.of_read (ended : Ended panel operation report) {register : UInt32}
    {offered filled : List UInt8} {answer : Except Fault Nat}
    (happened : .read register offered answer filled ∈ report.events) :
    operation = .checkLiveness ∧ panel.state = .active ∧ report.calls = [] := by
  cases ended with
  | refused => cases happened
  | hostless =>
    unfold remarks at happened
    split at happened <;> simp at happened
  | completed | stopped =>
    unfold remarks at happened
    split at happened <;> simp [Model.read_not_mem_sequence] at happened
  | checked accepted _ still =>
    -- What has no sequence is a check, and a check is accepted in one state only.
    have checks := Operation.direction?_eq_none.mp still
    subst checks
    refine ⟨rfl, ?_, Model.calls_isAlive _ _⟩
    cases state : panel.state with
    | active => rfl
    | uninitialized | suspended =>
      rw [state] at accepted
      cases accepted

end

/-! ## What an operation returns, and what it leaves behind -/

end Panel

/-- The states in which an operation may start. -/
def Operation.sources : Operation → List Lifecycle
  | .bringUp => [.uninitialized, .active]
  | .suspend => [.active]
  | .resume => [.suspended]
  | .checkLiveness => [.active]

/-- The state that an operation leads to if it succeeds. A check leads nowhere. -/
def Operation.target : Operation → Lifecycle → Lifecycle
  | .bringUp, _ => .active
  | .suspend, _ => .suspended
  | .resume, _ => .active
  | .checkLiveness, state => state

theorem Operation.accepts_iff {operation : Operation} {state : Lifecycle} :
    operation.accepts state = true ↔ state ∈ operation.sources := by
  cases operation <;> cases state <;> simp [accepts, sources]

theorem Operation.target_of_direction? {operation : Operation} {direction : Direction}
    (moves : operation.direction? = some direction) (state : Lifecycle) :
    operation.target state = direction.target := by
  cases operation <;> cases moves <;> rfl

namespace Panel

/-- **What a report says and what it leaves behind agree.** -/
structure OutcomeTellsState [Host σ] (panel : Panel σ) (operation : Operation)
    (report : Report Error (Panel σ) (Answer σ)) : Prop where
  /-- an operation is rejected in the states where it may not start, and in no other -/
  rejected_iff : report.outcome = .error (.invalidTransition panel.state operation) ↔
    panel.state ∉ operation.sources
  /-- a rejection names the state the panel is in and the operation that was asked for -/
  rejected_names : ∀ state other, report.outcome = .error (.invalidTransition state other) →
    state = panel.state ∧ other = operation
  /-- without a sequence everything is as it was, the host too, and the host was not called -/
  untouched : ∀ error, report.outcome = .error error → (∀ fault, error ≠ .stopped fault) →
    report.state = panel ∧ ∀ event ∈ report.events, ∃ line, event = .noted line
  /-- after a sequence that stopped nothing is known, and the host is still held -/
  stopped : operation ≠ .checkLiveness → ∀ fault, report.outcome = .error (.stopped fault) →
    report.state.state = .uninitialized ∧ report.state.host.isSome = true
  /-- an operation that succeeds leads where it leads -/
  reached : ∀ answer, report.outcome = .ok answer →
    report.state.state = operation.target panel.state
  /-- a check leaves the state alone, whatever it returns -/
  checked : operation = .checkLiveness → report.state.state = panel.state
  /-- the host that is held is the one that was held, however far it was driven -/
  held : ∀ {ι : Type} (badge : σ → ι), KeptByCalls badge →
    report.state.host.map badge = panel.host.map badge
  /-- the model is never exchanged -/
  model : report.state.model = panel.model

section

variable [Host σ] {panel : Panel σ} {operation : Operation}
  {report : Report Error (Panel σ) (Answer σ)}

theorem Ended.rejected_iff (ended : Ended panel operation report) :
    report.outcome = .error (.invalidTransition panel.state operation) ↔
      panel.state ∉ operation.sources := by
  rw [← Operation.accepts_iff]
  cases ended with
  | refused refused => simp [refused]
  | hostless accepted | completed accepted | stopped accepted => simp [accepted]
  | checked accepted =>
    rename_i host _ _
    have answered : ((panel.model.isAlive host).outcome.mapError Error.stopped).map Answer.alive ≠
        (.error (.invalidTransition panel.state operation) : Except Error (Answer σ)) := by
      intro same
      cases ending : (panel.model.isAlive host).outcome <;> rw [ending] at same <;> cases same
    simp [accepted, answered]

/-- An error other than a fault of the sequence says that nothing was done at all. -/
theorem Ended.of_not_stopped (ended : Ended panel operation report) {error : Error}
    (failed : report.outcome = .error error) (unstopped : ∀ fault, error ≠ .stopped fault) :
    report.state = panel ∧ (∀ event ∈ report.events, ∃ line, event = .noted line) ∧
      (error = .notConfigured ∨ error = .invalidTransition panel.state operation) := by
  cases ended with
  | refused =>
    cases failed
    exact ⟨rfl, by simp, .inr rfl⟩
  | hostless =>
    cases failed
    refine ⟨rfl, fun event noted => ?_, .inl rfl⟩
    unfold remarks at noted
    split at noted
    · exact ⟨_, List.mem_singleton.mp noted⟩
    · cases noted
  | completed => cases failed
  | stopped =>
    cases failed
    exact absurd rfl (unstopped _)
  | checked =>
    rename_i host _ _ _
    cases ending : (panel.model.isAlive host).outcome with
    | ok =>
      rw [ending] at failed
      cases failed
    | error fault =>
      rw [ending] at failed
      cases failed
      exact absurd rfl (unstopped _)

theorem Ended.of_stopped (ended : Ended panel operation report) {fault : Fault}
    (failed : report.outcome = .error (.stopped fault)) (moves : operation.direction? ≠ none) :
    report.state.state = .uninitialized ∧ report.state.host.isSome = true := by
  cases ended with
  | refused | hostless | completed => cases failed
  | stopped => exact ⟨rfl, rfl⟩
  | checked _ _ still => exact absurd still moves

theorem Ended.of_ok (ended : Ended panel operation report) {answer : Answer σ}
    (succeeded : report.outcome = .ok answer) :
    report.state.state = operation.target panel.state := by
  cases ended with
  | refused | hostless | stopped => cases succeeded
  | completed _ _ moves => exact (Operation.target_of_direction? moves panel.state).symm
  | checked _ _ still =>
    rw [Operation.direction?_eq_none.mp still]
    rfl

theorem Ended.of_checkLiveness (ended : Ended panel .checkLiveness report) :
    report.state.state = panel.state := by
  cases ended with
  | refused | hostless | checked => rfl
  | completed _ _ moves | stopped _ _ moves => cases moves

theorem Ended.model (ended : Ended panel operation report) :
    report.state.model = panel.model := by
  cases ended <;> rfl

/-- No operation exchanges the host. -/
theorem Ended.held (ended : Ended panel operation report) {ι : Type} {badge : σ → ι}
    (kept : KeptByCalls badge) : report.state.host.map badge = panel.host.map badge := by
  cases ended with
  | refused | hostless => rfl
  | completed _ held | stopped _ held =>
    rw [held, Option.map_some, Option.map_some, Model.sequence_keeps kept]
  | checked _ held =>
    rw [held, Option.map_some, Option.map_some, Model.isAlive_keeps kept]

end

/-- Whatever state a panel is in and whatever its host does, what an operation returns tells what
    has become of the panel. -/
theorem outcome_tells_state [Host σ] (panel : Panel σ) (operation : Operation) :
    OutcomeTellsState panel operation (perform operation panel) := by
  have ended := ended_perform panel operation
  refine ⟨ended.rejected_iff, fun state other rejected => ?_, fun error failed unstopped => ?_,
    fun moves fault failed => ?_,
    fun answer succeeded => ended.of_ok succeeded, fun still => ?_,
    fun badge kept => ended.held kept, ended.model⟩
  · obtain ⟨-, -, bare | same⟩ := ended.of_not_stopped rejected nofun
    · cases bare
    · cases same
      exact ⟨rfl, rfl⟩
  · obtain ⟨same, noted, -⟩ := ended.of_not_stopped failed unstopped
    exact ⟨same, noted⟩
  · exact ended.of_stopped failed (mt Operation.direction?_eq_none.mp moves)
  · subst still
    exact ended.of_checkLiveness

end Panel

end DsiPanel
