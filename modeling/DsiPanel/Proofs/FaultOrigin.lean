import DsiPanel.Catalog
import DsiPanel.Host.Bench
import DsiPanel.Proofs.Limits
import DsiPanel.Proofs.Verdict
import DsiPanel.Table.Vendor

/-!
# Where a fault comes from

An operation that stopped says at which fault. Most faults are an answer of the host, and then that
answer is the last one it gave. Two faults need no host: the walk of a table ends at a write that
is too long, and a check ends before a register of which too much is expected. `Origin` tells the
three apart, each with how far the operation had come, and `Ended.origin` says that there is no
fourth. It is read off the plan of a sequence (`Carried.halt`) and off the verdict of a check
(`Examined.halt`).

> **Of a model that was vetted when it was written down, every fault is the host's**:
> `faults_are_the_hosts`. What the two guards are for is then never reported by a panel that its
> host did not tell it of.

A model is vetted when its writes were made in one of the ways that judge them, and its slots
expect no more bytes than the scratch buffer holds.
-/

set_option autoImplicit false

namespace DsiPanel

variable {σ : Type}

/-! ## A sequence that stopped -/

section

variable {plan : Plan} {calls : List Call} {ending : Except Fault Unit}

theorem Carried.accepted_of_ok (carried : Carried plan calls ending) (complete : ending = .ok ()) :
    ∀ call ∈ calls, call.answer = .ok () := by
  induction carried with
  | complete => nofun
  | accepted _ ih =>
    intro call among
    rcases List.mem_cons.mp among with rfl | later
    · rfl
    · exact ih complete call later
  | failed | refused => cases complete

/-- A plan stops at a call that failed, or right before a refusal; every other call was accepted. -/
theorem Carried.halt (carried : Carried plan calls ending) {fault : Fault}
    (stopped : ending = .error fault) :
    (∃ earlier action, calls = earlier ++ [⟨action, .error fault⟩] ∧
        ∀ call ∈ earlier, call.answer = .ok ()) ∨
      (fault = .tooManyParameters ∧ (∀ call ∈ calls, call.answer = .ok ()) ∧
        ∃ later, plan = (calls.map Call.action).map .ask ++ .refuse :: later) := by
  induction carried with
  | complete => cases stopped
  | @accepted action rest calls _ _ ih =>
    rcases ih stopped with ⟨earlier, last, rfl, fine⟩ | ⟨same, fine, later, rfl⟩
    · refine .inl ⟨⟨action, .ok ()⟩ :: earlier, last, rfl, fun call among => ?_⟩
      rcases List.mem_cons.mp among with rfl | there
      · rfl
      · exact fine call there
    · refine .inr ⟨same, fun call among => ?_, later, rfl⟩
      rcases List.mem_cons.mp among with rfl | there
      · rfl
      · exact fine call there
  | failed =>
    cases stopped
    exact .inl ⟨[], _, rfl, nofun⟩
  | refused =>
    cases stopped
    exact .inr ⟨rfl, nofun, _, rfl⟩

end

/-! ## The write that stopped it -/

/-- What stands first, and is not what stopped the walk, was walked in full. -/
theorem split_after {α : Type} {first rest walked later : List α} {stop : α}
    (split : first ++ rest = walked ++ stop :: later) (free : stop ∉ first) :
    ∃ more, walked = first ++ more ∧ rest = more ++ stop :: later := by
  rcases List.append_eq_append_iff.mp split with ⟨more, rfl, rfl⟩ | ⟨more, rfl, tail⟩
  · exact ⟨more, rfl, rfl⟩
  · cases more with
    | nil => exact ⟨[], by simp, by simpa using tail.symm⟩
    | cons head more =>
      cases tail
      exact absurd (List.mem_append_right _ List.mem_cons_self) free

theorem Entry.demands_of_isOversized {entry : Entry} (long : entry.isOversized = true)
    (urgent : Bool) : entry.demands urgent = [.refuse] := by
  cases entry with
  | write opcode parameters =>
    rw [demands, if_pos ((isOversized_write opcode parameters).mp long)]
  | delay | microDelay | endMark => cases long

/-- A plan is refused at the first entry of its table that is too long. -/
theorem Table.split_of_refuse {urgent : Bool} {table : Table} {tail walked later : Plan}
    (split : table.plan urgent ++ tail = walked ++ .refuse :: later) (freeTail : .refuse ∉ tail)
    (free : .refuse ∉ walked) :
    ∃ before entry after, table = before ++ entry :: after ∧ entry.isOversized = true ∧
      walked = Table.plan before urgent := by
  induction table generalizing walked with
  | nil =>
    -- The refusal would have to stand in what comes after the table.
    refine absurd ?_ freeTail
    rw [show tail = walked ++ .refuse :: later from split]
    exact List.mem_append_right _ List.mem_cons_self
  | cons entry rest ih =>
    rw [plan_cons, List.append_assoc] at split
    cases long : entry.isOversized with
    | true =>
      rw [Entry.demands_of_isOversized long] at split
      -- This is the entry, since what was walked holds no refusal.
      cases walked with
      | nil => exact ⟨[], entry, rest, rfl, long, rfl⟩
      | cons demand walked =>
        obtain ⟨rfl, -⟩ := List.cons.inj split
        exact absurd List.mem_cons_self free
    | false =>
      have sendable : .refuse ∉ entry.demands urgent := by
        simp [Entry.refuse_mem_demands, long]
      obtain ⟨more, rfl, splitRest⟩ := split_after split sendable
      obtain ⟨before, found, after, rfl, oversized, rfl⟩ :=
        ih splitRest fun among => free (List.mem_append_right _ among)
      exact ⟨entry :: before, found, after, rfl, oversized, rfl⟩

/-- What is asked for before the table is sent. -/
def Model.lead (model : Model) : Direction → Plan
  | .up => model.powerOn.plan
  | .down => []

/-- The walk of the table stopped at a write that is too long: all that stands before the write was
    asked for, and nothing else. -/
def Model.HaltsAtWrite (model : Model) (direction : Direction) (actions : List Action) : Prop :=
  ∃ before entry after, model.table direction = before ++ entry :: after ∧
    entry.isOversized = true ∧
    actions.map .ask = model.lead direction ++ Table.plan before true

theorem Model.haltsAtWrite_of_refuse {model : Model} {direction : Direction}
    {actions : List Action} {later : Plan}
    (split : model.plan direction = actions.map .ask ++ .refuse :: later) :
    model.HaltsAtWrite direction actions := by
  have free : .refuse ∉ actions.map Demand.ask := by simp
  cases direction with
  | up =>
    obtain ⟨more, asked, splitTable⟩ := split_after split Script.refuse_not_mem_plan
    rw [asked] at free
    have alone : model.initTable.plan true ++ [] = more ++ .refuse :: later := by
      rw [List.append_nil, splitTable]
    obtain ⟨before, entry, after, table, long, rfl⟩ :=
      Table.split_of_refuse alone nofun fun among => free (List.mem_append_right _ among)
    exact ⟨before, entry, after, table, long, asked⟩
  | down =>
    obtain ⟨before, entry, after, table, long, asked⟩ :=
      Table.split_of_refuse split Script.refuse_not_mem_plan free
    exact ⟨before, entry, after, table, long, asked⟩

/-! ## A check that stopped -/

/-- What the host answered to a read, the count apart. -/
def ReadCall.reply (read : ReadCall) : Except Fault Unit :=
  read.answer.map fun _ => ()

theorem repliesOf_eq_of_uncalled {events : List Event} (uncalled : callsOf events = []) :
    repliesOf events = (readsOf events).map ReadCall.reply := by
  induction events with
  | nil => rfl
  | cons event rest ih =>
    cases event with
    | noted => exact ih uncalled
    | acted => cases uncalled
    | read =>
      rw [callsOf_read] at uncalled
      simp [ih uncalled, ReadCall.reply]

/-- The check stopped before a register of which too much is expected, and read those before it. -/
def HaltsAtProbe (probes : List Probe) (reads : List ReadCall) : Prop :=
  ∃ before probe after, probes = before ++ probe :: after ∧
    maxParameters < probe.expected.length ∧ List.Forall₂ ReadCall.IsOf reads before

theorem ReadCall.Passes.reply_eq {read : ReadCall} {probe : Probe} (passes : read.Passes probe) :
    read.reply = .ok () := by
  obtain ⟨count, reported, -⟩ := passes.reported
  rw [reply, reported]
  rfl

theorem reply_of_passed {reads : List ReadCall} {probes : List Probe}
    (passed : List.Forall₂ ReadCall.Passes reads probes) :
    ∀ reply ∈ reads.map ReadCall.reply, reply = .ok () := by
  induction passed with
  | nil => nofun
  | cons passes _ ih =>
    intro reply among
    rcases List.mem_cons.mp among with rfl | later
    · exact passes.reply_eq
    · exact ih reply later

section

variable {probes : List Probe} {reads : List ReadCall} {verdict : Except Fault Bool}

theorem Examined.accepted_of_ok (examined : Examined probes reads verdict) {well : Bool}
    (answered : verdict = .ok well) : ∀ reply ∈ reads.map ReadCall.reply, reply = .ok () := by
  cases examined with
  | alive passed => exact reply_of_passed passed
  | decided split made passed decides =>
    rw [made, List.map_append]
    intro reply among
    rcases List.mem_append.mp among with earlier | last
    · exact reply_of_passed passed reply earlier
    · cases decides with
      | overlong | failed => cases answered
      | short _ _ count | differs _ _ count =>
        rw [List.mem_singleton.mp last, ReadCall.reply, count]
        rfl

/-- A check stops at a read that failed, or before a register of which too much is expected; every
    other read was answered. -/
theorem Examined.halt (examined : Examined probes reads verdict) {fault : Fault}
    (stopped : verdict = .error fault) :
    (∃ earlier, reads.map ReadCall.reply = earlier ++ [.error fault] ∧
        ∀ reply ∈ earlier, reply = .ok ()) ∨
      (fault = .bufferTooSmall ∧ (∀ reply ∈ reads.map ReadCall.reply, reply = .ok ()) ∧
        HaltsAtProbe probes reads) := by
  cases examined with
  | alive => cases stopped
  | @decided before after probe earlier _ _ split made passed decides =>
    cases decides with
    | short | differs => cases stopped
    | overlong long =>
      cases stopped
      rw [List.append_nil] at made
      rw [made]
      exact .inr ⟨rfl, reply_of_passed passed, before, probe, after, split, long,
        passed.imp fun _ _ passes => passes.isOf⟩
    | @failed read _ _ _ answered =>
      cases stopped
      refine .inl ⟨earlier.map ReadCall.reply, ?_, reply_of_passed passed⟩
      rw [made, List.map_append, List.map_singleton, ReadCall.reply, answered]
      rfl

end

/-! ## An operation that stopped -/

namespace Panel

/-- **Where the fault that an operation stopped at comes from**, and how far it had come. -/
inductive Origin (model : Model) (operation : Operation)
    (report : Report Error (Panel σ) (Answer σ)) (fault : Fault) : Prop where
  | host (earlier : List (Except Fault Unit)) (last : report.replies = earlier ++ [.error fault])
      (fine : ∀ reply ∈ earlier, reply = .ok ())
  | write (direction : Direction) (same : fault = .tooManyParameters)
      (moves : operation.direction? = some direction)
      (fine : ∀ reply ∈ report.replies, reply = .ok ())
      (halts : model.HaltsAtWrite direction (report.calls.map Call.action))
  | probe (same : fault = .bufferTooSmall) (checks : operation = .checkLiveness)
      (fine : ∀ reply ∈ report.replies, reply = .ok ())
      (halts : HaltsAtProbe model.datasheet.link.probes report.reads)

section

variable [Host σ] {panel : Panel σ} {operation : Operation}
  {report : Report Error (Panel σ) (Answer σ)}

theorem Ended.replies_of_runsSequence (ended : Ended panel operation report)
    (runs : panel.RunsSequence operation) : report.replies = report.calls.map Call.answer := by
  apply repliesOf_eq_of_unread
  intro register offered answer filled happened
  obtain ⟨rfl, -⟩ := ended.of_read happened
  cases runs.1

theorem replies_isAlive (model : Model) (host : σ) :
    (model.isAlive host).replies = (model.isAlive host).reads.map ReadCall.reply :=
  repliesOf_eq_of_uncalled (model.calls_isAlive host)

theorem isAlive_examined (model : Model) (host : σ) :
    Examined model.datasheet.link.probes (model.isAlive host).reads (model.isAlive host).outcome :=
  Scratch.check_examined model.name _ _ host

/-- An operation that succeeded had every call accepted. -/
theorem Ended.accepted_of_ok (ended : Ended panel operation report) {answer : Answer σ}
    (succeeded : report.outcome = .ok answer) : ∀ reply ∈ report.replies, reply = .ok () := by
  have whole := ended
  cases ended with
  | refused | hostless | stopped => cases succeeded
  | completed accepted held moves =>
    have runs : panel.RunsSequence operation := by simp [RunsSequence, accepted, held, moves]
    obtain ⟨direction, ending, moves, carried, outcome⟩ := whole.of_runsSequence runs
    cases ending with
    | error => cases outcome
    | ok =>
      rw [whole.replies_of_runsSequence runs]
      exact List.forall_mem_map.mpr (carried.accepted_of_ok rfl)
  | @checked host =>
    have examined := isAlive_examined panel.model host
    have replies := replies_isAlive panel.model host
    cases ending : (panel.model.isAlive host).outcome with
    | ok well =>
      show ∀ reply ∈ (panel.model.isAlive host).replies, reply = .ok ()
      rw [replies]
      exact examined.accepted_of_ok ending
    | error fault =>
      rw [ending] at succeeded
      cases succeeded

/-- **There is no fourth origin.** -/
theorem Ended.origin (ended : Ended panel operation report) {fault : Fault}
    (failed : report.outcome = .error (.stopped fault)) :
    Origin panel.model operation report fault := by
  have whole := ended
  cases ended with
  | refused | hostless | completed => cases failed
  | stopped accepted held moves =>
    cases failed
    have runs : panel.RunsSequence operation := by simp [RunsSequence, accepted, held, moves]
    obtain ⟨direction, ending, moves, carried, outcome⟩ := whole.of_runsSequence runs
    cases ending with
    | ok => cases outcome
    | error =>
      cases outcome
      have replies := whole.replies_of_runsSequence runs
      rcases carried.halt rfl with ⟨earlier, action, calls, fine⟩ | ⟨same, fine, later, split⟩
      · refine .host (earlier.map Call.answer) ?_ (List.forall_mem_map.mpr fine)
        rw [replies, calls, List.map_append, List.map_singleton]
      · refine .write direction same moves ?_ (Model.haltsAtWrite_of_refuse split)
        rw [replies]
        exact List.forall_mem_map.mpr fine
  | @checked host _ _ still =>
    have examined := isAlive_examined panel.model host
    have replies := replies_isAlive panel.model host
    cases ending : (panel.model.isAlive host).outcome with
    | ok well =>
      rw [ending] at failed
      cases failed
    | error other =>
      rw [ending] at failed
      cases failed
      rcases examined.halt ending with ⟨earlier, last, fine⟩ | ⟨same, fine, halts⟩
      · exact .host earlier (replies.trans last) fine
      · refine .probe same (Operation.direction?_eq_none.mp still) ?_ halts
        show ∀ reply ∈ (panel.model.isAlive host).replies, reply = .ok ()
        rw [replies]
        exact fine

end

end Panel

/-! ## Models that were vetted -/

/-- The entry was made in a way that judges it: as a write, or from a triple, strictly or not. -/
inductive Entry.Vetted (entry : Entry) : Prop where
  | checked {opcode : UInt32} {parameters : List UInt8}
      (made : Entry.checked opcode parameters = .ok entry)
  | required {triple : Vendor.Triple} (made : triple.require = .ok entry)
  | decoded {triple : Vendor.Triple} (made : triple.decode = .ok entry)

/-- All writes of the model were judged when they were made, and its slots expect no more bytes than
    one check can read. -/
structure Model.IsVetted (model : Model) : Prop where
  init : ∀ entry ∈ model.initTable, entry.isWrite = true → entry.Vetted
  suspend : ∀ entry ∈ model.suspendTable, entry.isWrite = true → entry.Vetted
  slots : ∀ probe ∈ model.datasheet.link.slots.toList, probe.expected.length ≤ maxParameters

theorem Entry.Vetted.isOversized {entry : Entry} (vetted : entry.Vetted) :
    entry.isOversized = false := by
  cases vetted with
  | checked made =>
    obtain ⟨within, rfl⟩ := checked_eq_ok_iff.mp made
    simpa [Entry.isOversized] using within
  | @required triple made =>
    cases decoded : triple.decode with
    | ok same =>
      rw [Vendor.Triple.require, decoded] at made
      cases made
      exact Vendor.Triple.isOversized_of_decode decoded
    | error refusal =>
      rw [Vendor.Triple.require, decoded] at made
      cases made
  | decoded made => exact Vendor.Triple.isOversized_of_decode made

/-- What was judged and let through is a write within the limit, and every such write could be. -/
theorem Entry.vetted_iff {entry : Entry} :
    (entry.isWrite = true → entry.Vetted) ↔ entry.isOversized = false := by
  constructor
  · intro vetted
    cases entry with
    | write => exact (vetted rfl).isOversized
    | delay | microDelay | endMark => rfl
  · intro within writes
    cases entry with
    | write opcode parameters =>
      have length : parameters.length ≤ maxParameters := by simpa [isOversized] using within
      exact .checked (checked_eq_ok_iff.mpr ⟨length, rfl⟩)
    | delay | microDelay | endMark => cases writes

theorem Model.isVetted_iff {model : Model} :
    model.IsVetted ↔ model.initTable.IsSendable ∧ model.suspendTable.IsSendable ∧
      ∀ probe ∈ model.datasheet.link.slots.toList, probe.expected.length ≤ maxParameters := by
  constructor
  · rintro ⟨init, suspend, slots⟩
    exact ⟨fun entry among => Entry.vetted_iff.mp (init entry among),
      fun entry among => Entry.vetted_iff.mp (suspend entry among), slots⟩
  · rintro ⟨init, suspend, slots⟩
    exact ⟨fun entry among => Entry.vetted_iff.mpr (init entry among),
      fun entry among => Entry.vetted_iff.mpr (suspend entry among), slots⟩

instance (model : Model) : Decidable model.IsVetted :=
  decidable_of_iff _ Model.isVetted_iff.symm

theorem Model.IsVetted.isSendable {model : Model} (vetted : model.IsVetted)
    (direction : Direction) : (model.table direction).IsSendable := by
  obtain ⟨init, suspends, -⟩ := isVetted_iff.mp vetted
  cases direction with
  | up => exact init
  | down => exact suspends

theorem Model.IsVetted.not_haltsAtWrite {model : Model} (vetted : model.IsVetted)
    {direction : Direction} {actions : List Action} : ¬ model.HaltsAtWrite direction actions := by
  rintro ⟨before, entry, after, split, long, -⟩
  have within := vetted.isSendable direction entry (by rw [split]; simp)
  rw [long] at within
  cases within

theorem Model.IsVetted.not_haltsAtProbe {model : Model} (vetted : model.IsVetted)
    {reads : List ReadCall} : ¬ HaltsAtProbe model.datasheet.link.probes reads := by
  rintro ⟨before, probe, after, split, long, -⟩
  have used : probe ∈ model.datasheet.link.probes := by rw [split]; simp
  exact absurd (vetted.slots probe (List.mem_filter.mp used).1) (Nat.not_le_of_lt long)

namespace Panel

/-- A request that stopped at a fault did so at the last answer of the host, and at no fault that
    the host did not answer. -/
structure FaultsAreAnswers (report : Report Error (Panel σ) (Answer σ)) : Prop where
  last : ∀ fault, report.outcome = .error (.stopped fault) →
    report.replies.getLast? = some (.error fault)
  unraised : ∀ fault, .error fault ∉ report.replies → report.outcome ≠ .error (.stopped fault)

theorem faultsAreAnswers_of_last {report : Report Error (Panel σ) (Answer σ)}
    (last : ∀ fault, report.outcome = .error (.stopped fault) →
      report.replies.getLast? = some (.error fault)) : FaultsAreAnswers report where
  last := last
  unraised fault silent failed := silent (List.mem_of_getLast? (last fault failed))

variable [Host σ]

theorem faultsAreAnswers_serve {panel : Panel σ} (vetted : panel.model.IsVetted)
    (request : Request σ) : FaultsAreAnswers (serve request panel) := by
  apply faultsAreAnswers_of_last
  intro fault failed
  cases request with
  | configure | adjust => cases failed
  | perform operation =>
    have ended := ended_perform panel operation
    cases ended.origin failed with
    | host earlier last =>
      rw [serve_perform, last]
      exact List.getLast?_concat
    | write _ _ _ _ halts => exact absurd halts vetted.not_haltsAtWrite
    | probe _ _ _ halts => exact absurd halts vetted.not_haltsAtProbe

theorem faultsAreAnswers_serveAll {panel : Panel σ} (vetted : panel.model.IsVetted)
    (requests : List (Request σ)) :
    ∀ report ∈ (serveAll panel requests).1, FaultsAreAnswers report := by
  induction requests generalizing panel with
  | nil =>
    intro report among
    cases among
  | cons request rest ih =>
    intro report among
    rw [serveAll_cons] at among
    rcases List.mem_cons.mp among with rfl | later
    · exact faultsAreAnswers_serve vetted request
    · rw [← serve_model panel request] at vetted
      exact ih vetted report later

end Panel

/-- **With vetted tables and slots, every fault is the host's**, whatever is asked of a panel and in
    whatever order. The models of the catalogue are such. -/
theorem faults_are_the_hosts :
    (∀ model ∈ Catalog.models, model.IsVetted) ∧
      ∀ {σ : Type} [Host σ] (panel : Panel σ) (requests : List (Panel.Request σ)),
        panel.model.IsVetted →
          ∀ report ∈ (Panel.serveAll panel requests).1, Panel.FaultsAreAnswers report := by
  refine ⟨by decide +kernel, ?_⟩
  intro σ _ panel requests vetted
  exact Panel.faultsAreAnswers_serveAll vetted requests

/-- A host that itself says, in the middle of a table, that a write is too long. -/
theorem Catalog.jd9365_faults_are_the_hosts :
    let panel : Panel Fused := .withHost jd9365 ⟨20, .tooManyParameters⟩
    let report := Panel.serve (.perform .bringUp) panel
    jd9365.IsVetted ∧ report.outcome = .error (.stopped .tooManyParameters) ∧
      report.replies.getLast? = some (.error .tooManyParameters) := by
  intro panel report
  have vetted : jd9365.IsVetted := by decide +kernel
  have failed : report.outcome = .error (.stopped .tooManyParameters) := by decide +kernel
  have answered : Panel.FaultsAreAnswers report :=
    faults_are_the_hosts.2 panel [.perform .bringUp] vetted report List.mem_cons_self
  exact ⟨vetted, failed, answered.last .tooManyParameters failed⟩

end DsiPanel
