import DsiPanel.Panel.Transition

/-!
# What a sequence demands of its host

A table and a script are walked by two functions of their own, with journal lines in between. For
the host all that is one list: a **plan** of demands, each either an action to be carried out or
the point where an over-long write ends the walk. `Table.plan` and `Script.plan` say which plan a
table or a script stands for, and `Plan.run` walks a plan with no journal at all.

> **A walk is its plan, once the journal is left out**: `send_quiet`, `play_quiet`,
> `sequence_quiet`.

So whatever is to be said about the calls of a sequence is said about plans. The main such fact is
`Plan.carried`: the calls that were made go through the demands in order, each of them accepted,
and either reach the end of the plan or stop right at the first demand that was not met. The last
section reads off it what later modules ask: a call is a demand (`Carried.ask_mem`), a plan without
an over-long write only ever stops at a fault of the host (`Carried.last_of_error`).
-/

set_option autoImplicit false

namespace DsiPanel

variable {σ : Type}

/-! ## Calls -/

/-- A call on the host that is not a read, with its answer. -/
structure Call where
  action : Action
  answer : Except Fault Unit
  deriving DecidableEq

/-- The call of an event that is one. -/
def Event.call? : Event → Option Call
  | .acted action answer => some ⟨action, answer⟩
  | _ => none

/-- The calls among some events, in order. Reads are not counted. -/
def callsOf (events : List Event) : List Call :=
  events.filterMap Event.call?

@[simp] theorem callsOf_nil : callsOf [] = [] := rfl

@[simp] theorem callsOf_append (first second : List Event) :
    callsOf (first ++ second) = callsOf first ++ callsOf second :=
  List.filterMap_append

@[simp] theorem callsOf_noted (line : Journal.Line) (events : List Event) :
    callsOf (.noted line :: events) = callsOf events := rfl

@[simp] theorem callsOf_acted (action : Action) (answer : Except Fault Unit)
    (events : List Event) :
    callsOf (.acted action answer :: events) = ⟨action, answer⟩ :: callsOf events := rfl

@[simp] theorem callsOf_read (register : UInt32) (offered filled : List UInt8)
    (answer : Except Fault Nat) (events : List Event) :
    callsOf (.read register offered answer filled :: events) = callsOf events := rfl

def Report.calls {ε α : Type} (report : Report ε σ α) : List Call :=
  callsOf report.events

/-! ## Leaving the journal out -/

/-- The report without its journal lines. -/
def Report.quiet {ε α : Type} (report : Report ε σ α) : Report ε σ α :=
  { report with events := report.events.filter fun event => event.line?.isNone }

theorem callsOf_quiet (events : List Event) :
    callsOf (events.filter fun event => event.line?.isNone) = callsOf events := by
  induction events with
  | nil => rfl
  | cons event rest ih => cases event <;> simp [List.filter_cons, ih]

@[simp] theorem Report.calls_quiet {ε α : Type} (report : Report ε σ α) :
    report.quiet.calls = report.calls :=
  callsOf_quiet report.events

@[simp] theorem Report.outcome_quiet {ε α : Type} (report : Report ε σ α) :
    report.quiet.outcome = report.outcome := rfl

namespace Run

variable {ε α β : Type}

def quiet (run : Run ε σ α) : Run ε σ α := fun state => (run state).quiet

@[simp] theorem quiet_apply (run : Run ε σ α) (state : σ) :
    run.quiet state = (run state).quiet := rfl

@[simp] theorem quiet_pure (value : α) : quiet (pure value : Run ε σ α) = pure value := rfl

@[simp] theorem quiet_fail (cause : ε) : quiet (fail cause : Run ε σ α) = fail cause := rfl

@[simp] theorem quiet_note (line : Journal.Line) : quiet (note line : Run ε σ Unit) = pure () :=
  rfl

@[simp] theorem quiet_act [Host σ] (action : Action) : quiet (act action : Run Fault σ Unit) =
    act action := rfl

/-- The journal does not steer a run, so it can be left out part by part. -/
@[simp] theorem quiet_bind (first : Run ε σ α) (next : α → Run ε σ β) :
    quiet (first >>= next) = quiet first >>= fun value => quiet (next value) := by
  funext state
  cases went : (first state).outcome with
  | ok value =>
    have wentQuiet : (quiet first state).outcome = .ok value := went
    rw [quiet_apply, bind_of_ok went, bind_of_ok wentQuiet]
    simp [Report.quiet, Report.after]
  | error cause =>
    have stoppedQuiet : (quiet first state).outcome = .error cause := went
    rw [quiet_apply, bind_of_error went, bind_of_error stoppedQuiet]
    rfl

end Run

/-! ## Plans -/

/-- What a sequence demands of its host at one point. -/
inductive Demand where
  /-- carry this action out -/
  | ask (action : Action)
  /-- a write is too long: the sequence ends here, and the host is not asked -/
  | refuse
  deriving DecidableEq

/-- A plan is the list of the demands of a sequence. -/
abbrev Plan := List Demand

/-- What an entry demands. The end mark demands nothing. -/
def Entry.demands (urgent : Bool) : Entry → Plan
  | .delay milliseconds =>
    if milliseconds ≤ shortDelayMs then [.ask (.waitUs (milliseconds * 1000))]
    else [.ask (.waitMs milliseconds)]
  | .microDelay microseconds => [.ask (.waitUs microseconds)]
  | .endMark => []
  | .write opcode parameters =>
    if maxParameters < parameters.length then [.refuse]
    else [.ask (.write opcode parameters urgent)]

/-- The plan that a table stands for. -/
def Table.plan (table : Table) (urgent : Bool) : Plan :=
  table.flatMap (Entry.demands urgent)

theorem Table.plan_cons (entry : Entry) (rest : Table) (urgent : Bool) :
    plan (entry :: rest) urgent = entry.demands urgent ++ plan rest urgent :=
  List.flatMap_cons

/-- The plan that a power script stands for. -/
def Script.plan (script : Script) : Plan :=
  script.map fun step => .ask step.action

def Demand.run [Host σ] : Demand → Run Fault σ Unit
  | .ask action => Run.act action
  | .refuse => Run.fail .tooManyParameters

/-- Meet the demands of a plan in order. -/
def Plan.run [Host σ] : Plan → Run Fault σ Unit
  | [] => pure ()
  | demand :: rest => do
    demand.run
    run rest

namespace Plan

variable [Host σ]

@[simp] theorem run_nil : (run [] : Run Fault σ Unit) = pure () := rfl

theorem run_cons (demand : Demand) (rest : Plan) :
    (run (demand :: rest) : Run Fault σ Unit) = (do demand.run; run rest) := rfl

@[simp] theorem run_singleton (demand : Demand) :
    (run [demand] : Run Fault σ Unit) = demand.run := by
  show (demand.run >>= fun _ => pure ()) = demand.run
  exact bind_pure demand.run

theorem run_append (first second : Plan) :
    (run (first ++ second) : Run Fault σ Unit) = (do run first; run second) := by
  induction first with
  | nil => simp
  | cons demand rest ih => simp only [List.cons_append, run_cons, ih, bind_assoc]

end Plan

/-! ## A walk is its plan -/

section

variable [Host σ]

theorem Entry.carryOut_quiet (urgent : Bool) (entry : Entry) :
    (entry.carryOut urgent : Run Fault σ Unit).quiet = Plan.run (entry.demands urgent) := by
  cases entry with
  | delay milliseconds =>
    by_cases short : milliseconds ≤ shortDelayMs
    · simp [Entry.carryOut, Entry.demands, short, Demand.run]
    · simp [Entry.carryOut, Entry.demands, short, Demand.run]
  | microDelay microseconds => simp [Entry.carryOut, Entry.demands, Demand.run]
  | endMark => simp [Entry.carryOut, Entry.demands]
  | write opcode parameters =>
    by_cases long : maxParameters < parameters.length
    · simp [Entry.carryOut, Entry.demands, long, Demand.run]
    · simp [Entry.carryOut, Entry.demands, long, Demand.run]

theorem Table.sendFrom_quiet (urgent : Bool) (index : Nat) (table : Table) :
    (sendFrom urgent index table : Run Fault σ Unit).quiet = Plan.run (plan table urgent) := by
  induction table generalizing index with
  | nil => rfl
  | cons entry rest ih =>
    rw [sendFrom_cons, plan_cons, Plan.run_append, ← ih (index + 1), ← Entry.carryOut_quiet]
    simp

theorem Table.send_quiet (urgent : Bool) (table : Table) :
    (send table urgent : Run Fault σ Unit).quiet = Plan.run (plan table urgent) :=
  sendFrom_quiet urgent 0 table

theorem Script.play_quiet (script : Script) :
    (play script : Run Fault σ Unit).quiet = Plan.run (plan script) := by
  induction script with
  | nil => rfl
  | cons step rest ih =>
    have split : plan (step :: rest) = .ask step.action :: plan rest := rfl
    rw [play_cons, split, Plan.run_cons, ← ih]
    simp [Demand.run]

end

/-! ## The two sequences of a model -/

inductive Direction where
  | up
  | down
  deriving DecidableEq, Repr

/-- The state that a complete sequence leads to. -/
def Direction.target : Direction → Lifecycle
  | .up => .active
  | .down => .suspended

/-- The way an operation moves the panel, if it does. -/
def Operation.direction? : Operation → Option Direction
  | .bringUp => some .up
  | .suspend => some .down
  | .resume => some .up
  | .checkLiveness => none

theorem Operation.direction?_eq_none {operation : Operation} :
    operation.direction? = none ↔ operation = .checkLiveness := by
  cases operation <;> simp [direction?]

def Model.sequence [Host σ] (model : Model) : Direction → Run Fault σ Unit
  | .up => model.up
  | .down => model.down

/-- **The plan of that sequence**: the power script comes before the init table on the way up, and
    after the suspend table on the way down. Every write is urgent. -/
def Model.plan (model : Model) : Direction → Plan
  | .up => model.powerOn.plan ++ model.initTable.plan true
  | .down => model.suspendTable.plan true ++ model.powerOff.plan

theorem Model.sequence_quiet [Host σ] (model : Model) (direction : Direction) :
    (model.sequence direction : Run Fault σ Unit).quiet = Plan.run (model.plan direction) := by
  cases direction with
  | up =>
    rw [Model.plan, Plan.run_append, ← Script.play_quiet, ← Table.send_quiet]
    simp [Model.sequence, Model.up]
  | down =>
    rw [Model.plan, Plan.run_append, ← Script.play_quiet, ← Table.send_quiet]
    simp [Model.sequence, Model.down]

/-! ## How far a plan is carried -/

/-- **The calls of a plan, whatever the host answers.** Demands are met one after the other as long
    as the host accepts. The walk ends where the plan ends, right after the first call that failed,
    or where a write is refused, and its ending says which. -/
inductive Carried : Plan → List Call → Except Fault Unit → Prop where
  | complete : Carried [] [] (.ok ())
  | accepted {action : Action} {rest : Plan} {calls : List Call} {ending : Except Fault Unit}
      (later : Carried rest calls ending) :
      Carried (.ask action :: rest) (⟨action, .ok ()⟩ :: calls) ending
  | failed {action : Action} {rest : Plan} {fault : Fault} :
      Carried (.ask action :: rest) [⟨action, .error fault⟩] (.error fault)
  | refused {rest : Plan} : Carried (.refuse :: rest) [] (.error .tooManyParameters)

theorem Plan.carried [Host σ] (plan : Plan) (host : σ) :
    Carried plan (plan.run host).calls (plan.run host).outcome := by
  induction plan generalizing host with
  | nil => exact .complete
  | cons demand rest ih =>
    cases demand with
    | refuse => exact .refused
    | ask action =>
      rw [run_cons]
      cases answer : (Host.act action host).1 with
      | ok =>
        have met : ((Demand.ask action).run host).outcome = .ok () := answer
        rw [Run.bind_of_ok met]
        have later : Carried (.ask action :: rest) (⟨action, .ok ()⟩ :: _) _ :=
          .accepted (ih (Host.act action host).2)
        simpa [Report.calls, Demand.run, answer] using later
      | error fault =>
        have failed : ((Demand.ask action).run host).outcome = .error fault := answer
        rw [Run.bind_of_error failed]
        simpa [Report.calls, Demand.run, answer] using Carried.failed

/-- A plan reads no register. -/
theorem Plan.acted_of_mem [Host σ] {plan : Plan} {host : σ} {event : Event}
    (happened : event ∈ (plan.run host).events) :
    ∃ action answer, event = .acted action answer := by
  induction plan generalizing host with
  | nil => cases happened
  | cons demand rest ih =>
    cases demand with
    | refuse => cases happened
    | ask action =>
      have first : (Demand.ask action).run host =
          ⟨(Host.act action host).1, [.acted action (Host.act action host).1],
            (Host.act action host).2⟩ := rfl
      rw [run_cons, Run.bind_apply, first] at happened
      cases answer : (Host.act action host).1 with
      | ok =>
        rw [answer] at happened
        rcases List.mem_cons.mp happened with rfl | later
        · exact ⟨_, _, rfl⟩
        · exact ih later
      | error =>
        rw [answer] at happened
        exact ⟨_, _, List.mem_singleton.mp happened⟩

theorem Model.read_not_mem_sequence [Host σ] {model : Model} {direction : Direction} {host : σ}
    {register : UInt32} {offered filled : List UInt8} {answer : Except Fault Nat} :
    .read register offered answer filled ∉ (model.sequence direction host).events := by
  intro happened
  -- A sequence adds nothing to its plan but journal lines, so the read is in the plan.
  have loud : Event.read register offered answer filled ∈
      ((model.sequence direction).quiet host).events :=
    List.mem_filter.mpr ⟨happened, rfl⟩
  rw [sequence_quiet] at loud
  obtain ⟨_, _, same⟩ := Plan.acted_of_mem loud
  cases same

/-- What is a plan once the journal is left out carries out that plan. -/
theorem Plan.carried_of_quiet [Host σ] {plan : Plan} {walk : Run Fault σ Unit}
    (same : walk.quiet = plan.run) (host : σ) :
    Carried plan (walk host).calls (walk host).outcome := by
  have carried := plan.carried host
  rw [← same] at carried
  simpa using carried

theorem Model.sequence_carried [Host σ] (model : Model) (direction : Direction) (host : σ) :
    Carried (model.plan direction) (model.sequence direction host).calls
      (model.sequence direction host).outcome :=
  Plan.carried_of_quiet (model.sequence_quiet direction) host

theorem Table.send_carried [Host σ] (table : Table) (urgent : Bool) (host : σ) :
    Carried (table.plan urgent) (table.send urgent host).calls
      (table.send urgent host).outcome :=
  Plan.carried_of_quiet (send_quiet urgent table) host

/-! ## What a plan asks for, and where it is refused -/

theorem mem_callsOf {events : List Event} {action : Action} {answer : Except Fault Unit} :
    ⟨action, answer⟩ ∈ callsOf events ↔ .acted action answer ∈ events := by
  induction events with
  | nil => exact ⟨nofun, nofun⟩
  | cons event rest ih => cases event <;> simp [ih]

theorem Carried.ask_mem {plan : Plan} {calls : List Call} {ending : Except Fault Unit}
    (carried : Carried plan calls ending) {call : Call} (among : call ∈ calls) :
    .ask call.action ∈ plan := by
  induction carried with
  | complete | refused => cases among
  | accepted _ ih =>
    rcases List.mem_cons.mp among with rfl | later
    · exact List.mem_cons_self
    · exact List.mem_cons_of_mem _ (ih later)
  | failed =>
    rw [List.mem_singleton.mp among]
    exact List.mem_cons_self

/-- No write of the table is too long. -/
def Table.IsSendable (table : Table) : Prop :=
  ∀ entry ∈ table, entry.isOversized = false

instance (table : Table) : Decidable table.IsSendable :=
  inferInstanceAs (Decidable (∀ entry ∈ table, entry.isOversized = false))

theorem Entry.refuse_mem_demands {urgent : Bool} {entry : Entry} :
    .refuse ∈ entry.demands urgent ↔ entry.isOversized = true := by
  cases entry with
  | delay milliseconds =>
    rw [demands]
    split <;> simp [isOversized]
  | microDelay | endMark => simp [demands, isOversized]
  | write opcode parameters =>
    rw [demands, isOversized_write]
    split
    · rename_i long
      simp [long]
    · rename_i within
      simp [within]

theorem Table.refuse_not_mem_plan {urgent : Bool} {table : Table} :
    .refuse ∉ table.plan urgent ↔ table.IsSendable := by
  simp only [plan, List.mem_flatMap, Entry.refuse_mem_demands, not_exists, not_and,
    Bool.not_eq_true]
  rfl

theorem Script.refuse_not_mem_plan {script : Script} : .refuse ∉ script.plan := by
  intro refused
  obtain ⟨step, -, same⟩ := List.mem_map.mp refused
  cases same

/-- A plan that was carried to its end was asked for in full, and nothing of it was refused. -/
theorem Carried.asked_of_ok {plan : Plan} {calls : List Call} {ending : Except Fault Unit}
    (carried : Carried plan calls ending) (complete : ending = .ok ()) :
    calls.map (fun call => .ask call.action) = plan := by
  induction carried with
  | complete => rfl
  | accepted _ ih => rw [List.map_cons, ih complete]
  | failed | refused => cases complete

/-- **Where nothing is refused, every fault is the host's**: it is the answer to the last call. -/
theorem Carried.last_of_error {plan : Plan} {calls : List Call} {ending : Except Fault Unit}
    (carried : Carried plan calls ending) {fault : Fault} (stopped : ending = .error fault)
    (sendable : .refuse ∉ plan) :
    ∃ earlier action, calls = earlier ++ [⟨action, .error fault⟩] := by
  induction carried with
  | complete => cases stopped
  | accepted _ ih =>
    obtain ⟨earlier, action, rfl⟩ := ih stopped fun later => sendable (List.mem_cons_of_mem _ later)
    exact ⟨_ :: earlier, action, rfl⟩
  | failed =>
    cases stopped
    exact ⟨[], _, rfl⟩
  | refused => exact absurd List.mem_cons_self sendable

end DsiPanel
