import DsiPanel.Host
import DsiPanel.Journal

/-!
# Runs: sequences that leave a record

A sequence runs on a state, may stop at a fault, and along the way leaves journal lines and makes
calls on the host. How the lines and the calls interleave is part of what a sequence does, so a
run returns all of it: a **report** holds the outcome, the events in order, and the state at the
end.

`Run` is a monad, and the two rules that everything else follows from are these. A run that
stopped has no next step: its events and its state stay as they are. A run that went well is
followed by the next one on the state it left, and the events of the second come after those of
the first.
-/

set_option autoImplicit false

namespace DsiPanel

/-! ## Events -/

/-- One thing that happened: a line of the journal, or a call on the host with its answer. -/
inductive Event where
  /-- a line was added to the journal -/
  | noted (line : Journal.Line)
  /-- the host was asked for an action -/
  | acted (action : Action) (answer : Except Fault Unit)
  /-- the host was given a buffer for a register, and left it filled -/
  | read (register : UInt32) (offered : List UInt8) (answer : Except Fault Nat)
      (filled : List UInt8)
  deriving DecidableEq

namespace Event

/-- The journal line of an event that is one. -/
def line? : Event → Option Journal.Line
  | .noted line => some line
  | _ => none

/-- The action of an event that asked for one. -/
def action? : Event → Option Action
  | .acted action _ => some action
  | _ => none

@[simp] theorem line?_noted (line : Journal.Line) : line? (.noted line) = some line := rfl

@[simp] theorem line?_acted (action : Action) (answer : Except Fault Unit) :
    line? (.acted action answer) = none := rfl

@[simp] theorem line?_read (register : UInt32) (offered filled : List UInt8)
    (answer : Except Fault Nat) : line? (.read register offered answer filled) = none := rfl

end Event

/-! ## Reports -/

/-- What a run leaves behind. -/
structure Report (ε σ α : Type) where
  outcome : Except ε α
  events : List Event
  state : σ
  deriving DecidableEq

namespace Report

variable {ε σ α : Type}

/-- The journal lines of a report, in order. -/
def lines (report : Report ε σ α) : List Journal.Line :=
  report.events.filterMap Event.line?

/-- The actions the host was asked for, in order, with those that failed. -/
def actions (report : Report ε σ α) : List Action :=
  report.events.filterMap Event.action?

/-- The same report, as the continuation of earlier events. -/
def after (earlier : List Event) (report : Report ε σ α) : Report ε σ α :=
  { report with events := earlier ++ report.events }

@[simp] theorem outcome_after (earlier : List Event) (report : Report ε σ α) :
    (report.after earlier).outcome = report.outcome := rfl

@[simp] theorem events_after (earlier : List Event) (report : Report ε σ α) :
    (report.after earlier).events = earlier ++ report.events := rfl

@[simp] theorem state_after (earlier : List Event) (report : Report ε σ α) :
    (report.after earlier).state = report.state := rfl

@[simp] theorem after_nil (report : Report ε σ α) : report.after [] = report := rfl

@[simp] theorem after_after (first second : List Event) (report : Report ε σ α) :
    (report.after second).after first = report.after (first ++ second) := by
  simp [after]

end Report

/-! ## Runs -/

/-- A sequence that runs on states `σ`, stops at causes `ε`, and gives an `α` if complete. -/
def Run (ε σ α : Type) : Type :=
  σ → Report ε σ α

namespace Run

variable {ε σ α β : Type}

/-- Give a value, and do nothing. -/
protected def pure (value : α) : Run ε σ α := fun state => ⟨.ok value, [], state⟩

/-- Stop at a cause. -/
def fail (cause : ε) : Run ε σ α := fun state => ⟨.error cause, [], state⟩

/-- One run, and the next one if it went well. -/
protected def bind (first : Run ε σ α) (next : α → Run ε σ β) : Run ε σ β := fun state =>
  let report := first state
  match report.outcome with
  | .ok value => (next value report.state).after report.events
  | .error cause => ⟨.error cause, report.events, report.state⟩

instance : Monad (Run ε σ) where
  pure := Run.pure
  bind := Run.bind

/-- Add a line to the journal. -/
def note (line : Journal.Line) : Run ε σ Unit := fun state => ⟨.ok (), [.noted line], state⟩

/-- Ask the host for an action. -/
def act [Host σ] (action : Action) : Run Fault σ Unit := fun state =>
  let (answer, after) := Host.act action state
  ⟨answer, [.acted action answer], after⟩

/-- Ask the host to read a register into a buffer. A read that went well gives the count that was
    reported and the buffer. -/
def read [Host σ] {n : Nat} (register : UInt32) (buffer : Vector UInt8 n) :
    Run Fault σ (Nat × Vector UInt8 n) := fun state =>
  let (reading, after) := Host.readInto register buffer state
  ⟨reading.count.map (·, reading.buffer),
    [.read register buffer.toList reading.count reading.buffer.toList], after⟩

/-! ## How runs compose -/

@[simp] theorem pure_apply (value : α) (state : σ) :
    (pure value : Run ε σ α) state = ⟨.ok value, [], state⟩ := rfl

@[simp] theorem note_apply (line : Journal.Line) (state : σ) :
    (note line : Run ε σ Unit) state = ⟨.ok (), [.noted line], state⟩ := rfl

@[simp] theorem act_apply [Host σ] (action : Action) (state : σ) :
    act action state =
      ⟨(Host.act action state).1, [.acted action (Host.act action state).1],
        (Host.act action state).2⟩ := rfl

@[simp] theorem read_apply [Host σ] {n : Nat} (register : UInt32) (buffer : Vector UInt8 n)
    (state : σ) :
    read register buffer state =
      ⟨(Host.readInto register buffer state).1.count.map
          (·, (Host.readInto register buffer state).1.buffer),
        [.read register buffer.toList (Host.readInto register buffer state).1.count
          (Host.readInto register buffer state).1.buffer.toList],
        (Host.readInto register buffer state).2⟩ := rfl

theorem bind_apply (first : Run ε σ α) (next : α → Run ε σ β) (state : σ) :
    (first >>= next) state =
      match (first state).outcome with
      | .ok value => (next value (first state).state).after (first state).events
      | .error cause => ⟨.error cause, (first state).events, (first state).state⟩ := rfl

theorem map_apply (f : α → β) (run : Run ε σ α) (state : σ) :
    (f <$> run) state = ⟨(run state).outcome.map f, (run state).events, (run state).state⟩ := by
  show (run >>= fun value => pure (f value)) state = _
  cases went : (run state).outcome <;> simp [bind_apply, went, Report.after, Except.map]

/-- A run that went well hands its state on. -/
theorem bind_of_ok {first : Run ε σ α} {next : α → Run ε σ β} {state : σ} {value : α}
    (went : (first state).outcome = .ok value) :
    (first >>= next) state = (next value (first state).state).after (first state).events := by
  rw [bind_apply, went]

/-- **A run that stopped has no next step.** -/
theorem bind_of_error {first : Run ε σ α} {next : α → Run ε σ β} {state : σ} {cause : ε}
    (stopped : (first state).outcome = .error cause) :
    (first >>= next) state = ⟨.error cause, (first state).events, (first state).state⟩ := by
  rw [bind_apply, stopped]

instance : LawfulMonad (Run ε σ) :=
  LawfulMonad.mk' (Run ε σ)
    (fun run => by
      funext state
      show (run >>= pure) state = run state
      cases went : (run state).outcome with
      | ok value =>
        rw [bind_of_ok went]
        simp [Report.after, ← went]
      | error cause => rw [bind_of_error went, ← went])
    (fun _ _ => rfl)
    (fun run first second => by
      funext state
      cases went : (run state).outcome with
      | ok value =>
        rw [bind_of_ok went]
        cases wentFirst : (first value (run state).state).outcome with
        | ok next =>
          have joined : ((run >>= first) state).outcome = .ok next := by
            rw [bind_of_ok went]; exact wentFirst
          rw [bind_of_ok joined, bind_of_ok went, bind_of_ok wentFirst]
          simp
        | error cause =>
          have joined : ((run >>= first) state).outcome = .error cause := by
            rw [bind_of_ok went]; exact wentFirst
          rw [bind_of_error joined, bind_of_ok went, bind_of_error wentFirst]
          rfl
      | error cause =>
        have joined : ((run >>= first) state).outcome = .error cause := by
          rw [bind_of_error went]
        rw [bind_of_error went, bind_of_error joined, bind_of_error went])

end Run

end DsiPanel
