import DsiPanel.Proofs.Custody
import DsiPanel.Proofs.Trace
import DsiPanel.Proofs.Verdict

/-!
# What the journal says of an operation

An operation that runs its sequence puts two lines around it: one before the first call on the host,
and one after the last, which says how the sequence ended. In between stand the lines of the two
walks, in the order of the walks, and the second walk has none if the first one stopped. `Phased` is
what two walks in turn leave, and `Bracketed` what an operation makes of it.

The other operations say little. One that is refused says nothing, and neither does one that finds
no host: the warning that bring-up may start with is for a panel that displays, and such a panel has
its host. A check speaks up for one reason, which is that a register differs.

> **The lines of an operation are its bracket, or there are none** (`journal_brackets_operations`).

That a panel which displays has its host is only so of panels that were brought there by requests,
so the result is about those.
-/

set_option autoImplicit false

namespace DsiPanel

open Journal

variable {σ : Type}

/-! ## Lines of a report -/

@[simp] theorem journalOf_append (first second : List Event) :
    journalOf (first ++ second) = journalOf first ++ journalOf second :=
  List.filterMap_append

@[simp] theorem journalOf_noted (line : Line) (events : List Event) :
    journalOf (.noted line :: events) = (line.severity, line) :: journalOf events := rfl

/-! ## Two walks in turn -/

/-- What two walks in turn leave. The second one is made if the first is complete. -/
inductive Phased (first second : List Event → Except Fault Unit → Prop) :
    List Event → Except Fault Unit → Prop where
  | both {early late : List Event} {ending : Except Fault Unit} (before : first early (.ok ()))
      (after : second late ending) : Phased first second (early ++ late) ending
  | cut {events : List Event} {fault : Fault} (stopped : first events (.error fault)) :
      Phased first second events (.error fault)

theorem Phased.of_bind {first second : List Event → Except Fault Unit → Prop}
    {early late : Run Fault σ Unit}
    (leavesFirst : ∀ host, first (early host).events (early host).outcome)
    (leavesSecond : ∀ host, second (late host).events (late host).outcome) (host : σ) :
    Phased first second ((early >>= fun _ => late) host).events
      ((early >>= fun _ => late) host).outcome := by
  have left := leavesFirst host
  cases went : (early host).outcome with
  | ok =>
    rw [went] at left
    rw [Run.bind_of_ok went]
    exact .both left (leavesSecond _)
  | error fault =>
    rw [went] at left
    rw [Run.bind_of_error went]
    exact .cut left

/-- What holds of all events of either walk holds of all events of both. -/
theorem Phased.forall_mem {first second : List Event → Except Fault Unit → Prop}
    {motive : Severity × Line → Prop} {events : List Event} {ending : Except Fault Unit}
    (phased : Phased first second events ending)
    (ofFirst : ∀ {events ending}, first events ending → ∀ line ∈ journalOf events, motive line)
    (ofSecond : ∀ {events ending}, second events ending → ∀ line ∈ journalOf events, motive line) :
    ∀ line ∈ journalOf events, motive line := by
  cases phased with
  | both before after =>
    intro line among
    rw [journalOf_append] at among
    rcases List.mem_append.mp among with early | late
    · exact ofFirst before line early
    · exact ofSecond after line late
  | cut stopped => exact ofFirst stopped

/-- The attempts that a walk of the table makes, up to any of its ends. -/
def Table.Traces (urgent : Bool) (table : Table) (events : List Event)
    (ending : Except Fault Unit) : Prop :=
  ∃ reach, Traced (Entry.Leaves urgent) 0 table reach events ending

def Script.Traces (script : Script) (events : List Event) (ending : Except Fault Unit) : Prop :=
  ∃ reach, Traced (fun _ => Step.Leaves) 0 script reach events ending

/-- What the sequence leaves: its two walks in turn, and every write is urgent. -/
def Model.Traces (model : Model) : Direction → List Event → Except Fault Unit → Prop
  | .up => Phased model.powerOn.Traces (model.initTable.Traces true)
  | .down => Phased (model.suspendTable.Traces true) model.powerOff.Traces

theorem Model.sequence_traces [Host σ] (model : Model) (direction : Direction) (host : σ) :
    model.Traces direction (model.sequence direction host).events
      (model.sequence direction host).outcome := by
  cases direction with
  | up =>
    exact Phased.of_bind (model.powerOn.play_traced 0) (model.initTable.sendFrom_traced true 0) host
  | down =>
    exact Phased.of_bind (model.suspendTable.sendFrom_traced true 0) (model.powerOff.play_traced 0)
      host

/-! ## The lines of a walk -/

/-- The lines that a walk can leave: that it came to an item, and that a write is too long. -/
inductive OfWalk : Severity × Line → Prop where
  | reached (index : Nat) (entry : Entry) : OfWalk (.trace, .reached index entry)
  | attempted (step : Step) : OfWalk (.trace, .attempted step)
  | oversized (register : UInt32) (length : Nat) : OfWalk (.warn, .oversized register length)

theorem Entry.ofWalk_of_mem_journal {index : Nat} {entry : Entry} {line : Severity × Line}
    (among : line ∈ entry.journal index) : OfWalk line := by
  cases entry with
  | delay | microDelay | endMark =>
    rw [List.mem_singleton.mp among]
    exact .reached index _
  | write opcode parameters =>
    rcases List.mem_cons.mp among with first | warning
    · rw [first]
      exact .reached index _
    · split at warning
      · rw [List.mem_singleton.mp warning]
        exact .oversized opcode _
      · cases warning

theorem Table.Traces.ofWalk {urgent : Bool} {table : Table} {events : List Event}
    {ending : Except Fault Unit} (traces : table.Traces urgent events ending) :
    ∀ line ∈ journalOf events, OfWalk line := by
  obtain ⟨reach, traced⟩ := traces
  intro line among
  rw [journalOf, traced.filterMap_eq Entry.journal Entry.Leaves.journalOf_eq] at among
  obtain ⟨_, -, shown⟩ := List.mem_flatMap.mp among
  exact Entry.ofWalk_of_mem_journal shown

theorem Script.Traces.ofWalk {script : Script} {events : List Event} {ending : Except Fault Unit}
    (traces : script.Traces events ending) : ∀ line ∈ journalOf events, OfWalk line := by
  obtain ⟨reach, traced⟩ := traces
  intro line among
  rw [journalOf, traced.filterMap_eq (fun _ => Step.journal) Step.Leaves.journalOf_eq] at among
  obtain ⟨_, -, shown⟩ := List.mem_flatMap.mp among
  rw [List.mem_singleton.mp shown]
  exact .attempted _

theorem Model.Traces.ofWalk {model : Model} {direction : Direction} {events : List Event}
    {ending : Except Fault Unit} (traces : model.Traces direction events ending) :
    ∀ line ∈ journalOf events, OfWalk line := by
  cases direction with
  | up => exact Phased.forall_mem traces Script.Traces.ofWalk Table.Traces.ofWalk
  | down => exact Phased.forall_mem traces Table.Traces.ofWalk Script.Traces.ofWalk

/-! ## What a check says -/

/-- The line that a check of the probes ends with, from the reads that were made. All probes before
    one passed, the last read is of that one, and what it found, cut to the count, is not what is
    expected. -/
inductive Differs (panel : String) (probes : List Probe) (reads : List ReadCall) :
    Severity × Line → Prop where
  | of_last {before after : List Probe} {probe : Probe} {earlier : List ReadCall} {read : ReadCall}
      {count : Nat} (split : probes = before ++ probe :: after) (made : reads = earlier ++ [read])
      (passed : List.Forall₂ ReadCall.Passes earlier before) (isOf : read.IsOf probe)
      (answered : read.answer = .ok count)
      (other : read.filled.take (min count probe.expected.length) ≠ probe.expected) :
      Differs panel probes reads
        (.warn, .mismatch panel probe.register
          (read.filled.take (min count probe.expected.length)) probe.expected)

/-- What a check of the probes says, from its reads and its answer. -/
inductive Tells (panel : String) (probes : List Probe) (reads : List ReadCall) :
    Except Fault Bool → List (Severity × Line) → Prop where
  | silent {verdict : Except Fault Bool} (other : verdict ≠ .ok false) :
      Tells panel probes reads verdict []
  | differs {line : Severity × Line} (differs : Differs panel probes reads line) :
      Tells panel probes reads (.ok false) [line]

section

variable {panel : String} {probes : List Probe} {reads : List ReadCall}
  {verdict : Except Fault Bool} {lines : List (Severity × Line)}

theorem Tells.eq_nil (tells : Tells panel probes reads verdict lines)
    (other : verdict ≠ .ok false) : lines = [] := by
  cases tells with
  | silent => rfl
  | differs => exact absurd rfl other

theorem Tells.eq_singleton (tells : Tells panel probes reads verdict lines)
    (found : verdict = .ok false) : ∃ line, Differs panel probes reads line ∧ lines = [line] := by
  cases tells with
  | silent other => exact absurd found other
  | differs differs => exact ⟨_, differs, rfl⟩

/-- A probe that passes adds nothing to what is said about the others. -/
theorem Tells.cons {probe : Probe} {read : ReadCall} (passes : read.Passes probe)
    (tells : Tells panel probes reads verdict lines) :
    Tells panel (probe :: probes) (read :: reads) verdict lines := by
  cases tells with
  | silent other => exact .silent other
  | differs differs =>
    obtain ⟨split, made, passed, isOf, answered, other⟩ := differs
    rw [split, made]
    exact .differs (.of_last (List.cons_append ..).symm (List.cons_append ..).symm
      (.cons passes passed) isOf answered other)

end

section

variable [Host σ]

theorem Scratch.check_tells (panel : String) (scratch : Scratch) (probes : List Probe)
    (host : σ) :
    Tells panel probes (scratch.check panel probes host).reads
      (scratch.check panel probes host).outcome (scratch.check panel probes host).journal := by
  induction probes generalizing scratch host with
  | nil => exact .silent nofun
  | cons probe rest ih =>
    have taken := scratch.check_taken panel probe rest host
    generalize scratch.check panel (probe :: rest) host = report at taken ⊢
    cases taken with
    | overlong | failed => exact .silent nofun
    | passed passes => exact (ih _ _).cons passes
    | @differs read count next within isOf answered whole other =>
      -- The window ends where the expected bytes do, so the count is cut there by itself.
      have cut : read.filled.take count = read.filled.take (min count probe.expected.length) := by
        rw [List.take_eq_take_min, whole]
      rw [cut] at other ⊢
      exact .differs (.of_last rfl rfl .nil isOf answered other)

end

/-! ## What an operation says -/

namespace Panel

/-- **The bracket of an operation**: what its sequence left stands between the line that opens it
    and the line that closes it, and nothing follows. -/
structure Bracketed (panel : Panel σ) (operation : Operation) (direction : Direction)
    (report : Report Error (Panel σ) (Answer σ)) (phases : List Event)
    (closing : Severity × Line) : Prop where
  moves : operation.direction? = some direction
  /-- in between is what the two walks of the sequence left, and the operation ends as they did -/
  traces : ∃ ending, panel.model.Traces direction phases ending ∧
    report.outcome = (ending.mapError .stopped).map fun _ => .done
  /-- so every call on the host is in between -/
  events : report.events = panel.remarks operation ++
    (.noted (.begun panel.name operation) :: phases ++ [.noted closing.2])
  /-- bring-up warns first if the panel displays already -/
  journal : report.journal =
    (if operation = .bringUp ∧ panel.state = .active then [(.warn, .repeated panel.name)]
      else []) ++
      ((.debug, .begun panel.name operation) :: journalOf phases ++ [closing])
  /-- there is no other bracket inside, since the walks leave only their own lines -/
  inside : ∀ line ∈ journalOf phases, OfWalk line
  completed_iff : closing = (.debug, .completed panel.name operation) ↔ report.outcome = .ok .done
  aborted_iff : ∀ fault, closing = (.warn, .aborted panel.name operation fault) ↔
    report.outcome = .error (.stopped fault)

/-- What the journal has of an operation, whichever way it ends. -/
structure Journaled (panel : Panel σ) (operation : Operation)
    (report : Report Error (Panel σ) (Answer σ)) : Prop where
  refused : ∀ state other, report.outcome = .error (.invalidTransition state other) →
    report.journal = []
  missed : report.outcome = .error .notConfigured → report.journal = []
  /-- what is not a check and got so far has run its sequence -/
  bracketed : operation ≠ .checkLiveness →
    (∀ state other, report.outcome ≠ .error (.invalidTransition state other)) →
    report.outcome ≠ .error .notConfigured →
    ∃ direction phases closing, Bracketed panel operation direction report phases closing
  /-- a check that finds the panel well is silent, and so is one that failed -/
  silent : operation = .checkLiveness → report.outcome ≠ .ok (.alive false) → report.journal = []
  /-- one that does not find it well says which register differs, and what was found there -/
  differed : report.outcome = .ok (.alive false) →
    ∃ line, Differs panel.name panel.model.datasheet.link.probes report.reads line ∧
      report.journal = [line]

theorem journalOf_remarks (panel : Panel σ) (operation : Operation) :
    journalOf (panel.remarks operation) =
      if operation = .bringUp ∧ panel.state = .active then [(.warn, .repeated panel.name)]
      else [] := by
  unfold remarks
  split <;> rfl

/-- Without a host the panel does not display, so there is nothing to warn of. -/
theorem remarks_of_no_host {panel : Panel σ} (backed : panel.IsBacked) (bare : panel.host = none)
    (operation : Operation) : panel.remarks operation = [] := by
  refine if_neg ?_
  rintro ⟨-, displays⟩
  have holds := backed (by rw [displays]; nofun)
  rw [bare] at holds
  cases holds

/-- The line that closes the bracket of a sequence that ended so. -/
def closing (panel : Panel σ) (operation : Operation) : Except Fault Unit → Line
  | .ok () => .completed panel.name operation
  | .error fault => .aborted panel.name operation fault

section

variable {panel : Panel σ} {operation : Operation} {report : Report Error (Panel σ) (Answer σ)}

theorem Bracketed.of_traces {direction : Direction} {phases : List Event}
    {ending : Except Fault Unit} (moves : operation.direction? = some direction)
    (traces : panel.model.Traces direction phases ending)
    (outcome : report.outcome = (ending.mapError .stopped).map fun _ => .done)
    (events : report.events = panel.remarks operation ++
      (.noted (.begun panel.name operation) :: phases ++
        [.noted (panel.closing operation ending)])) :
    Bracketed panel operation direction report phases
      ((panel.closing operation ending).severity, panel.closing operation ending) := by
  refine ⟨moves, ⟨ending, traces, outcome⟩, events, ?_, traces.ofWalk, ?_, fun fault => ?_⟩
  · rw [Report.journal, events, journalOf_append, journalOf_remarks]
    simp only [List.cons_append, journalOf_noted, journalOf_append]
    rfl
  · rw [outcome]
    cases ending <;> simp [closing, Line.severity, Except.mapError, Except.map]
  · rw [outcome]
    cases ending <;> simp [closing, Line.severity, Except.mapError, Except.map]

theorem Bracketed.journaled {direction : Direction} {phases : List Event}
    {closing : Severity × Line}
    (bracketed : Bracketed panel operation direction report phases closing) :
    Journaled panel operation report := by
  obtain ⟨ending, -, outcome⟩ := bracketed.traces
  refine ⟨fun _ _ failed => ?_, fun failed => ?_, fun _ _ _ => ⟨_, _, _, bracketed⟩,
    fun checks => ?_, fun found => ?_⟩
  · rw [outcome] at failed
    cases ending <;> cases failed
  · rw [outcome] at failed
    cases ending <;> cases failed
  · have moves := bracketed.moves
    rw [checks] at moves
    cases moves
  · rw [outcome] at found
    cases ending <;> cases found

/-- A check that was made says nothing unless it says that a register differs. -/
theorem journaled_of_tells {verdict : Except Fault Bool} (still : operation.direction? = none)
    (tells : Tells panel.name panel.model.datasheet.link.probes report.reads verdict
      report.journal)
    (outcome : report.outcome = (verdict.mapError .stopped).map .alive) :
    Journaled panel operation report := by
  have told : report.outcome = .ok (.alive false) ↔ verdict = .ok false := by
    rw [outcome]
    cases verdict <;> simp [Except.mapError, Except.map]
  have silent (other : report.outcome ≠ .ok (.alive false)) : report.journal = [] :=
    tells.eq_nil (mt told.mpr other)
  exact ⟨fun _ _ failed => silent (by rw [failed]; nofun),
    fun failed => silent (by rw [failed]; nofun),
    fun moved => absurd (Operation.direction?_eq_none.mp still) moved,
    fun _ => silent, fun found => tells.eq_singleton (told.mp found)⟩

variable [Host σ]

theorem Ended.journaled (ended : Ended panel operation report) (backed : panel.IsBacked) :
    Journaled panel operation report := by
  cases ended with
  | refused =>
    exact ⟨fun _ _ _ => rfl, fun _ => rfl, fun _ legal => absurd rfl (legal _ _),
      fun _ _ => rfl, nofun⟩
  | hostless _ bare =>
    have nothing : journalOf (panel.remarks operation) = [] := by
      rw [remarks_of_no_host backed bare]
      rfl
    exact ⟨nofun, fun _ => nothing, fun _ _ found => absurd rfl found, fun _ _ => nothing, nofun⟩
  | @completed host direction _ _ moves complete =>
    have traces := panel.model.sequence_traces direction host
    rw [complete] at traces
    exact (Bracketed.of_traces moves traces rfl rfl).journaled
  | @stopped host direction fault _ _ moves stopped =>
    have traces := panel.model.sequence_traces direction host
    rw [stopped] at traces
    exact (Bracketed.of_traces moves traces rfl rfl).journaled
  | @checked host _ _ still =>
    exact journaled_of_tells still (Scratch.check_tells _ _ _ host) rfl

end

/-- **The lines of an operation are its bracket, or there are none**, for every panel that requests
    can lead to; a check has one line if a register differs, and being given a host is one line
    too. -/
theorem journal_brackets_operations [Host σ] (model : Model) (start : Option σ)
    (requests : List (Request σ)) :
    let panel := (serveAll { model, host := start } requests).2
    (∀ operation, Journaled panel operation (perform operation panel)) ∧
      ∀ host, (serve (.configure host) panel).journal = [(.debug, .configured model.name)] := by
  intro panel
  have backed : panel.IsBacked := serveAll_isBacked (fun known => absurd rfl known) requests
  refine ⟨fun operation => (ended_perform panel operation).journaled backed, fun host => ?_⟩
  have same : panel.name = model.name := congrArg Model.name (serveAll_model _ requests)
  rw [serve_configure, same]
  rfl

end Panel

end DsiPanel
