import DsiPanel.Proofs.Leftovers
import DsiPanel.Proofs.Parts

/-!
# Counts beyond the buffer

A bus may report more bytes than there was room for, and there are three places that have to make
something of it. A board refuses such a count, a liveness check cuts it to the bytes it expects,
and a read of one byte looks at no count at all. So a panel on a board and one on a host that
hands on what the bus says are not the same panel to their caller:

> **They agree until the bus first reports too much**, and there a check over the board is at an
> end, while over the other host it goes by the bytes (`checks_agree_until_overrun`).

Behind a board the check's own cut is therefore never taken, and a panel is well just if the bus
reported for each probe what is expected of it, neither less nor more.

What is compared are two runs on the same bus, so it has to be said what the bus was asked and
what it reported. The calls are among the events of either run. The reports are not, since a host
may keep a count to itself, and are found by making the calls again (`busReads`).
-/

set_option autoImplicit false

namespace DsiPanel

/-! ## What a host makes of a count -/

/-- What a host does with a count that the bus reports. -/
inductive CountPolicy where
  | handOn
  | refuse
  deriving DecidableEq

def CountPolicy.answer : CountPolicy → (room : Nat) → Option Nat → Except Fault Nat
  | _, _, none => .error .transport
  | .handOn, _, some count => .ok count
  | .refuse, room, some count => if room < count then .error .bufferTooSmall else .ok count

/-- The reads of the host are those of the bus in it, but for what it makes of the count. -/
structure ReadsBy {σ β : Type} [Host σ] [Bus β] (policy : CountPolicy) (busOf : σ → β) : Prop where
  reading : ∀ {n : Nat} (register : UInt32) (buffer : Vector UInt8 n) (host : σ),
    (Host.readInto register buffer host).1 =
      let read := (Bus.read register buffer (busOf host)).1
      ⟨policy.answer n read.1, read.2⟩
  next : ∀ {n : Nat} (register : UInt32) (buffer : Vector UInt8 n) (host : σ),
    busOf (Host.readInto register buffer host).2 = (Bus.read register buffer (busOf host)).2

theorem Plugged.reading_eq {n : Nat} (reported : Option Nat) (filled : Vector UInt8 n) :
    Plugged.reading reported filled = ⟨CountPolicy.answer .handOn n reported, filled⟩ := by
  cases reported <;> rfl

theorem Board.judge_eq {n : Nat} (reported : Option Nat) (filled : Vector UInt8 n) :
    Board.judge reported filled = ⟨CountPolicy.answer .refuse n reported, filled⟩ := by
  cases reported <;> rfl

theorem Plugged.readsBy {β : Type} [Bus β] : ReadsBy .handOn (Plugged.bus : Plugged β → β) where
  reading _ _ _ := Plugged.reading_eq _ _
  next _ _ _ := rfl

theorem Board.readsBy {β ρ γ δ : Type} [Bus β] [OutputPin ρ] [BiasSupply γ] [Timer δ] :
    ReadsBy .refuse (Board.bus : Board β ρ γ δ → β) where
  reading _ _ _ := Board.judge_eq _ _
  next _ _ _ := rfl

/-! ## What a bus reports -/

/-- A read that a bus made, with what it reported for it. -/
structure BusRead where
  register : UInt32
  offered : List UInt8
  reported : Option Nat
  filled : List UInt8
  deriving DecidableEq

namespace BusRead

def of {β : Type} [Bus β] (bus : β) (register : UInt32) {n : Nat} (buffer : Vector UInt8 n) :
    BusRead :=
  let read := (Bus.read register buffer bus).1
  ⟨register, buffer.toList, read.1, read.2.toList⟩

def call (read : BusRead) : BusCall :=
  .read read.register read.offered

/-- More was reported than there was room for. -/
def overruns (read : BusRead) : Bool :=
  read.reported.any (read.offered.length < ·)

/-- The read as a host of that policy passes it on. -/
def seenBy (policy : CountPolicy) (read : BusRead) : ReadCall :=
  ⟨read.register, read.offered, policy.answer read.offered.length read.reported, read.filled⟩

/-- What was reported for the read is what the probe expects: that many bytes, and these. -/
structure Answers (read : BusRead) (probe : Probe) : Prop where
  within : probe.expected.length ≤ maxParameters
  register : read.register = probe.register
  offered : read.offered.length = probe.expected.length
  reported : read.reported = some probe.expected.length
  filled : read.filled = probe.expected

theorem overruns_eq_true_iff {read : BusRead} :
    read.overruns = true ↔ ∃ count, read.reported = some count ∧ read.offered.length < count := by
  simp [overruns, Option.any_eq_true]

/-- Where nothing is overrun there is nothing to refuse. -/
theorem seenBy_eq {read : BusRead} (inside : read.overruns = false) :
    read.seenBy .refuse = read.seenBy .handOn := by
  unfold seenBy
  cases reported : read.reported with
  | none => rfl
  | some count =>
    have beyond : ¬ read.offered.length < count := by simpa [overruns, reported] using inside
    simp [CountPolicy.answer, beyond]

theorem answer_of_overruns {read : BusRead} (beyond : read.overruns = true) :
    (read.seenBy .refuse).answer = .error .bufferTooSmall ∧
      ∃ count, (read.seenBy .handOn).answer = .ok count ∧ read.offered.length < count := by
  obtain ⟨count, reported, more⟩ := overruns_eq_true_iff.mp beyond
  simp [seenBy, reported, CountPolicy.answer, more]

/-- Behind a host that refuses, only the expected count lets a probe pass. -/
theorem passes_iff_answers {read : BusRead} {probe : Probe} :
    (read.seenBy .refuse).Passes probe ↔ read.Answers probe := by
  constructor
  · rintro ⟨within, ⟨register, offered⟩, ⟨count, answered, enough⟩, filled⟩
    refine ⟨within, register, offered, ?_, filled⟩
    change read.offered.length = _ at offered
    change CountPolicy.answer .refuse read.offered.length read.reported = _ at answered
    cases reported : read.reported with
    | none =>
      rw [reported] at answered
      cases answered
    | some other =>
      rw [reported, CountPolicy.answer] at answered
      split at answered
      · cases answered
      · cases answered
        congr 1
        omega
  · rintro ⟨within, register, offered, reported, filled⟩
    refine ⟨within, ⟨register, offered⟩, ⟨probe.expected.length, ?_, Nat.le_refl _⟩, filled⟩
    simp [seenBy, reported, CountPolicy.answer, offered]

end BusRead

def busCallsOf (events : List Event) : List BusCall :=
  events.filterMap Event.busCall?

def Report.busCalls {ε σ α : Type} (report : Report ε σ α) : List BusCall :=
  busCallsOf report.events

section

variable {β : Type} [Bus β]

/-- The reads among some calls, made again on the bus as it was before them. -/
def busReads : β → List BusCall → List BusRead
  | _, [] => []
  | bus, .write opcode parameters urgent :: rest =>
    busReads (BusCall.drive bus (.write opcode parameters urgent)) rest
  | bus, .read register offered :: rest =>
    .of bus register (bufferOf offered) ::
      busReads (BusCall.drive bus (.read register offered)) rest

theorem busReads_read {n : Nat} (bus : β) (register : UInt32) (buffer : Vector UInt8 n)
    (rest : List BusCall) :
    busReads bus (.read register buffer.toList :: rest) =
      .of bus register buffer :: busReads (Bus.read register buffer bus).2 rest := by
  have made := apply_bufferOf (fun buffer => BusRead.of bus register buffer) buffer
  have next := apply_bufferOf (fun buffer => (Bus.read register buffer bus).2) buffer
  rw [busReads, made, BusCall.drive, next]

section

variable {σ : Type} [Host σ] {policy : CountPolicy} {busOf : σ → β}

/-- A read through the host is a read of the bus, seen through the host. -/
theorem ReadsBy.reading_eq (readsBy : ReadsBy policy busOf) {n : Nat} (register : UInt32)
    (buffer : Vector UInt8 n) (host : σ) :
    (Host.readInto register buffer host).1 =
      ⟨((BusRead.of (busOf host) register buffer).seenBy policy).answer,
        (Bus.read register buffer (busOf host)).1.2⟩ := by
  rw [readsBy.reading]
  simp [BusRead.of, BusRead.seenBy]

/-- The events are those of a bus, seen through its host. -/
structure SeenThrough (policy : CountPolicy) (bus : β) (events : List Event) (last : β) : Prop where
  reads : readsOf events = (busReads bus (busCallsOf events)).map (BusRead.seenBy policy)
  /-- nothing but reads was asked of the bus -/
  calls : busCallsOf events = (busReads bus (busCallsOf events)).map BusRead.call
  driven : last = (busCallsOf events).foldl BusCall.drive bus

theorem ReadsBy.seenThrough (readsBy : ReadsBy policy busOf) {host last : σ} {events : List Event}
    (underwent : Underwent host events last) (uncalled : callsOf events = []) :
    SeenThrough policy (busOf host) events (busOf last) := by
  induction underwent with
  | nothing => exact ⟨rfl, rfl, rfl⟩
  | noted _ ih =>
    have seen := ih uncalled
    exact ⟨seen.reads, seen.calls, seen.driven⟩
  | acted => simp at uncalled
  | @read host last n register buffer later _ ih =>
    have seen := ih uncalled
    rw [readsBy.next] at seen
    have busCalls (answer : Except Fault Nat) (filled : List UInt8) :
        busCallsOf (.read register buffer.toList answer filled :: later) =
          .read register buffer.toList :: busCallsOf later := rfl
    constructor
    · rw [readsOf_read, seen.reads, busCalls, busReads_read, List.map_cons, readsBy.reading_eq]
      rfl
    · rw [busCalls, busReads_read, List.map_cons, ← seen.calls]
      rfl
    · have next := apply_bufferOf (fun buffer => (Bus.read register buffer (busOf host)).2) buffer
      rw [seen.driven, busCalls, List.foldl_cons, BusCall.drive, next]

end

end

/-! ## Step by step on the same bus -/

/-- The reads up to the first that overruns, and that one. -/
def upToOverrun : List BusRead → List BusRead
  | [] => []
  | read :: rest => if read.overruns then [read] else read :: upToOverrun rest

theorem upToOverrun_cons_of_overruns {read : BusRead} (rest : List BusRead)
    (beyond : read.overruns = true) : upToOverrun (read :: rest) = [read] :=
  if_pos beyond

theorem upToOverrun_cons_of_inside {read : BusRead} (rest : List BusRead)
    (inside : read.overruns = false) :
    upToOverrun (read :: rest) = read :: upToOverrun rest := by
  simp [upToOverrun, inside]

/-- What was cut off would be behind an overrun. -/
theorem upToOverrun_eq_self {reads : List BusRead}
    (inside : ∀ read ∈ upToOverrun reads, read.overruns = false) : upToOverrun reads = reads := by
  induction reads with
  | nil => rfl
  | cons read rest ih =>
    cases here : read.overruns with
    | true =>
      rw [upToOverrun_cons_of_overruns rest here] at inside
      exact absurd (inside read List.mem_cons_self) (by simp [here])
    | false =>
      rw [upToOverrun_cons_of_inside rest here] at inside ⊢
      rw [ih (List.forall_mem_cons.mp inside).2]

theorem upToOverrun_append {before after : List BusRead} {read : BusRead}
    (inside : ∀ earlier ∈ before, earlier.overruns = false) (beyond : read.overruns = true) :
    upToOverrun (before ++ read :: after) = before ++ [read] := by
  induction before with
  | nil => exact upToOverrun_cons_of_overruns after beyond
  | cons first before ih =>
    obtain ⟨here, later⟩ := List.forall_mem_cons.mp inside
    rw [List.cons_append, upToOverrun_cons_of_inside _ here, ih later, List.cons_append]

section

variable {σ τ β : Type} [Host σ] [Host τ] [Bus β] {policy : CountPolicy} {panel : String}
  {scratch : Scratch} {probe : Probe} {rest : List Probe}

theorem Scratch.busReads_check_cons {busOf : σ → β} (readsBy : ReadsBy policy busOf) {host : σ}
    (fits : probe.expected.length ≤ maxParameters) :
    let window := scratch.window probe.expected.length fits
    let asked := Host.readInto probe.register window host
    busReads (busOf host) (scratch.check panel (probe :: rest) host).busCalls =
      .of (busOf host) probe.register window ::
        if probe.judge asked.1 = .ok true then
          busReads (busOf asked.2)
            ((scratch.store asked.1.buffer).check panel rest asked.2).busCalls
        else [] := by
  intro window asked
  have next : busOf asked.2 = (Bus.read probe.register window (busOf host)).2 :=
    readsBy.next probe.register window host
  rw [next, check, dif_pos fits]
  cases shape : Host.readInto probe.register window host with
  | mk reading after =>
    obtain ⟨answer, filled⟩ := reading
    have here : asked = (⟨answer, filled⟩, after) := shape
    rw [Run.bind_apply, Run.read_apply, shape, here]
    cases answer with
    | error fault => exact busReads_read _ _ window []
    | ok count =>
      by_cases same : filled.toList.take count = probe.expected
      · have well : probe.judge ⟨.ok count, filled⟩ = .ok true := by
          simp [Probe.judge, Except.map, same]
        rw [if_pos well]
        simp only [Except.map, if_pos same]
        exact busReads_read _ _ window _
      · have unwell : probe.judge ⟨.ok count, filled⟩ ≠ .ok true := by
          simp [Probe.judge, Except.map, same]
        rw [if_neg unwell]
        simp only [Except.map, if_neg same]
        exact busReads_read _ _ window []

/-- **A host that refuses has the bus asked the same until it first reports too much**, and nothing
    after that. -/
theorem Scratch.busReads_check {strictBus : σ → β} {directBus : τ → β}
    (strict : ReadsBy .refuse strictBus) (direct : ReadsBy .handOn directBus) {board : σ} {host : τ}
    (same : directBus host = strictBus board) (scratch : Scratch) (probes : List Probe) :
    busReads (strictBus board) (scratch.check panel probes board).busCalls =
      upToOverrun (busReads (strictBus board) (scratch.check panel probes host).busCalls) := by
  induction probes generalizing scratch board host with
  | nil => rfl
  | cons probe rest ih =>
    by_cases fits : probe.expected.length ≤ maxParameters
    · rw [busReads_check_cons strict fits, ← same, busReads_check_cons direct fits, same]
      generalize scratch.window probe.expected.length fits = window
      have strictReading := strict.reading_eq probe.register window board
      have directReading := direct.reading_eq probe.register window host
      have next : directBus (Host.readInto probe.register window host).2 =
          strictBus (Host.readInto probe.register window board).2 := by
        rw [strict.next, direct.next, same]
      rw [same] at directReading
      cases beyond : (BusRead.of (strictBus board) probe.register window).overruns with
      | true =>
        have stopped : probe.judge (Host.readInto probe.register window board).1 ≠ .ok true := by
          rw [strictReading, (BusRead.answer_of_overruns beyond).1]
          simp [Probe.judge, Except.map]
        rw [if_neg stopped, upToOverrun_cons_of_overruns _ beyond]
      | false =>
        -- One reading, and the same bus after it: so both go on, or both are at an end.
        have readings : (Host.readInto probe.register window board).1 =
            (Host.readInto probe.register window host).1 := by
          rw [strictReading, directReading, BusRead.seenBy_eq beyond]
        rw [readings, upToOverrun_cons_of_inside _ beyond]
        split
        · rw [ih next, next]
        · rfl
    · rw [check, check, dif_neg fits, dif_neg fits]
      rfl

end

section

variable {β : Type} [Bus β] {bus strictLast directLast : β} {strictEvents directEvents : List Event}

/-- Two hosts whose bus read the same, and was not overrun, have been through the same. -/
theorem SeenThrough.eq_of_inside (strict : SeenThrough .refuse bus strictEvents strictLast)
    (direct : SeenThrough .handOn bus directEvents directLast)
    (same : busReads bus (busCallsOf strictEvents) = busReads bus (busCallsOf directEvents))
    (inside : ∀ read ∈ busReads bus (busCallsOf strictEvents), read.overruns = false) :
    busCallsOf strictEvents = busCallsOf directEvents ∧
      readsOf strictEvents = readsOf directEvents ∧ strictLast = directLast := by
  have calls : busCallsOf strictEvents = busCallsOf directEvents := by
    rw [strict.calls, same, ← direct.calls]
  refine ⟨calls, ?_, ?_⟩
  · rw [strict.reads, direct.reads, ← same]
    exact List.map_congr_left fun read among => BusRead.seenBy_eq (inside read among)
  · rw [strict.driven, direct.driven, calls]

end

/-! ## What an overrun does to a verdict -/

theorem Probe.Decides.eq_nil {probe : Probe} {read : ReadCall} {later : List ReadCall}
    {verdict : Except Fault Bool} (decides : probe.Decides (read :: later) verdict) :
    later = [] := by
  cases decides <;> rfl

/-- Each read belongs to a probe, which passed or decided. -/
theorem Examined.at_read {probes : List Probe} {earlier later : List ReadCall} {read : ReadCall}
    {verdict : Except Fault Bool} (examined : Examined probes (earlier ++ read :: later) verdict) :
    ∃ before probe after, probes = before ++ probe :: after ∧
      List.Forall₂ ReadCall.Passes earlier before ∧
      (read.Passes probe ∧ Examined after later verdict ∨
        later = [] ∧ probe.Decides [read] verdict) := by
  induction earlier generalizing probes with
  | nil =>
    cases probes with
    | nil => simp [nil_iff] at examined
    | cons probe rest =>
      refine ⟨[], probe, rest, rfl, .nil, ?_⟩
      rcases cons_iff.mp examined with decides | ⟨_, _, made, passes, others⟩
      · obtain rfl : later = [] := decides.eq_nil
        exact .inr ⟨rfl, decides⟩
      · cases made
        exact .inl ⟨passes, others⟩
  | cons first earlier ih =>
    cases probes with
    | nil => simp [nil_iff] at examined
    | cons probe rest =>
      rcases cons_iff.mp examined with decides | ⟨_, _, made, passes, others⟩
      · simpa using decides.eq_nil
      · cases made
        obtain ⟨before, found, after, rfl, passed, here⟩ := ih others
        exact ⟨probe :: before, found, after, rfl, .cons passes passed, here⟩

section

variable {probes : List Probe} {probe : Probe} {before after : List BusRead} {read : BusRead}
  {verdict : Except Fault Bool}

/-- Refused, an overrun is what the check ends with. -/
theorem Examined.eq_of_overruns (beyond : read.overruns = true)
    (examined : Examined probes ((before ++ [read]).map (BusRead.seenBy .refuse)) verdict) :
    verdict = .error .bufferTooSmall := by
  have answered := (BusRead.answer_of_overruns beyond).1
  rw [List.map_append, List.map_singleton] at examined
  obtain ⟨_, probe, _, -, -, ⟨passes, -⟩ | ⟨-, decides⟩⟩ := examined.at_read
  · obtain ⟨count, reported, -⟩ := passes.reported
    rw [answered] at reported
    cases reported
  · cases decides with
    | failed _ _ failed =>
      rw [answered] at failed
      cases failed
      rfl
    | short _ _ counted | differs _ _ counted =>
      rw [answered] at counted
      cases counted

/-- The probe of the read is judged by the bytes that were left in the buffer, and the count is
    nothing to it. All before it passed, and if it did too, the probes behind it have the
    verdict. -/
def JudgedByBytes (probes : List Probe) (before : List BusRead) (read : BusRead)
    (after : List BusRead) (verdict : Except Fault Bool) : Prop :=
  ∃ earlier probe later, probes = earlier ++ probe :: later ∧
    List.Forall₂ (fun read probe => (read.seenBy .handOn).Passes probe) before earlier ∧
    (read.seenBy .handOn).IsOf probe ∧
    if read.filled = probe.expected then
      Examined later (after.map (BusRead.seenBy .handOn)) verdict
    else after = [] ∧ verdict = .ok false

theorem Examined.judgedByBytes (beyond : read.overruns = true)
    (examined : Examined probes ((before ++ read :: after).map (BusRead.seenBy .handOn)) verdict) :
    JudgedByBytes probes before read after verdict := by
  obtain ⟨count, answered, more⟩ := (BusRead.answer_of_overruns beyond).2
  rw [List.map_append, List.map_cons] at examined
  obtain ⟨earlier, probe, later, split, passed, ⟨passes, others⟩ | ⟨last, decides⟩⟩ :=
    examined.at_read
  · refine ⟨earlier, probe, later, split, List.forall₂_map_left_iff.mp passed, passes.isOf, ?_⟩
    have same : read.filled = probe.expected := passes.filled
    rw [if_pos same]
    exact others
  · have others : after = [] := List.map_eq_nil_iff.mp last
    cases decides with
    | failed _ _ failed =>
      rw [answered] at failed
      cases failed
    | short _ isOf counted below =>
      -- A count beyond the room is no count below what is expected.
      rw [answered] at counted
      cases counted
      have offered : read.offered.length = probe.expected.length := isOf.offered
      omega
    | differs _ isOf _ differs =>
      refine ⟨earlier, probe, later, split, List.forall₂_map_left_iff.mp passed, isOf, ?_⟩
      have other : read.filled ≠ probe.expected := differs
      rw [if_neg other]
      exact ⟨others, rfl⟩

theorem Examined.alive_iff_answers {reads : List BusRead}
    (examined : Examined probes (reads.map (BusRead.seenBy .refuse)) verdict) :
    verdict = .ok true ↔ List.Forall₂ BusRead.Answers reads probes := by
  have passed_iff : List.Forall₂ ReadCall.Passes (reads.map (BusRead.seenBy .refuse)) probes ↔
      List.Forall₂ BusRead.Answers reads probes := by
    rw [List.forall₂_map_left_iff]
    simp only [BusRead.passes_iff_answers]
  rw [← passed_iff]
  constructor
  · rintro rfl
    cases examined with
    | alive passed => exact passed
    | decided _ _ _ decides => cases decides
  · intro passed
    exact examined.unique (.alive passed)

end

/-! ## A check of a panel -/

namespace Panel

/-- How a check of a panel on a board compares with one on a host that hands on the counts, given
    the bus that both start with and the buses they end with. -/
structure Compares {σ τ β : Type} [Bus β] (probes : List Probe) (bus : β)
    (strict : Report Error (Panel σ) Bool) (strictLast : β)
    (direct : Report Error (Panel τ) Bool) (directLast : β) : Prop where
  /-- either bus is as the calls of its own check left it -/
  strictDriven : strictLast = strict.busCalls.foldl BusCall.drive bus
  directDriven : directLast = direct.busCalls.foldl BusCall.drive bus
  reads : busReads bus strict.busCalls = upToOverrun (busReads bus direct.busCalls)
  agree : (∀ read ∈ busReads bus strict.busCalls, read.overruns = false) →
    strict.busCalls = direct.busCalls ∧ strict.outcome = direct.outcome ∧ strictLast = directLast
  part : ∀ before read after, busReads bus direct.busCalls = before ++ read :: after →
    (∀ earlier ∈ before, earlier.overruns = false) → read.overruns = true →
      busReads bus strict.busCalls = before ++ [read] ∧
      strict.outcome = .error (.stopped .bufferTooSmall) ∧
      ∃ verdict, direct.outcome = verdict.mapError .stopped ∧
        JudgedByBytes probes before read after verdict
  alive : strict.outcome = .ok true ↔
    List.Forall₂ BusRead.Answers (busReads bus strict.busCalls) probes

section

variable {σ τ β : Type} [Host σ] [Host τ] [Bus β]

theorem isAlive_seenThrough {policy : CountPolicy} {busOf : σ → β}
    (readsBy : ReadsBy policy busOf) (model : Model) (host : σ) :
    SeenThrough policy (busOf host) (model.isAlive host).events
      (busOf (model.isAlive host).state) :=
  readsBy.seenThrough (model.isAlive_recounts host) (model.calls_isAlive host)

theorem isAlive_examined_seenBy {policy : CountPolicy} {busOf : σ → β}
    (readsBy : ReadsBy policy busOf) (model : Model) (host : σ) :
    Examined model.datasheet.link.probes
      ((busReads (busOf host) (model.isAlive host).busCalls).map (BusRead.seenBy policy))
      (model.isAlive host).outcome := by
  have examined := isAlive_examined model host
  rw [Report.reads, (isAlive_seenThrough readsBy model host).reads] at examined
  exact examined

theorem checkLiveness_compares_of_readsBy {strictBus : σ → β} {directBus : τ → β}
    (strict : ReadsBy .refuse strictBus) (direct : ReadsBy .handOn directBus) (model : Model)
    {board : σ} {host : τ} (same : directBus host = strictBus board) :
    Compares model.datasheet.link.probes (strictBus board)
      (checkLiveness { model, host := some board, state := .active })
      (strictBus (model.isAlive board).state)
      (checkLiveness { model, host := some host, state := .active })
      (directBus (model.isAlive host).state) := by
  have strictSeen := isAlive_seenThrough strict model board
  have directSeen := isAlive_seenThrough direct model host
  have strictExamined := isAlive_examined_seenBy strict model board
  have directExamined := isAlive_examined_seenBy direct model host
  have reads : busReads (strictBus board) (model.isAlive board).busCalls =
      upToOverrun (busReads (strictBus board) (model.isAlive host).busCalls) :=
    Scratch.busReads_check strict direct same .cleared model.datasheet.link.probes
  rw [same] at directSeen directExamined
  rw [checkLiveness_of_host rfl rfl, checkLiveness_of_host rfl rfl]
  refine ⟨strictSeen.driven, directSeen.driven, reads, ?_, ?_, ?_⟩
  · intro inside
    change ∀ read ∈ busReads (strictBus board) (model.isAlive board).busCalls, _ at inside
    have all : busReads (strictBus board) (model.isAlive board).busCalls =
        busReads (strictBus board) (model.isAlive host).busCalls := by
      rw [reads] at inside ⊢
      exact upToOverrun_eq_self inside
    obtain ⟨calls, seen, lasts⟩ := strictSeen.eq_of_inside directSeen all inside
    have examined := isAlive_examined model board
    rw [Report.reads, seen] at examined
    have outcomes : (model.isAlive board).outcome = (model.isAlive host).outcome :=
      examined.unique (isAlive_examined model host)
    exact ⟨calls, congrArg (Except.mapError Error.stopped) outcomes, lasts⟩
  · intro before read after split inside beyond
    change busReads (strictBus board) (model.isAlive host).busCalls = _ at split
    rw [split, upToOverrun_append inside beyond] at reads
    rw [reads] at strictExamined
    rw [split] at directExamined
    have refused : (model.isAlive board).outcome = .error .bufferTooSmall :=
      strictExamined.eq_of_overruns beyond
    exact ⟨reads, congrArg (Except.mapError Error.stopped) refused, _, rfl,
      directExamined.judgedByBytes beyond⟩
  · refine Iff.trans ?_ strictExamined.alive_iff_answers
    show (model.isAlive board).outcome.mapError Error.stopped = .ok true ↔ _
    cases (model.isAlive board).outcome <;> simp [Except.mapError]

end

theorem firstByte_eq_ok_iff {reading : Reading 1} {byte : UInt8} :
    reading.firstByte = .ok byte ↔
      ∃ count, reading.count = .ok count ∧ reading.buffer.toList = [byte] := by
  obtain ⟨answer, ⟨⟨bytes⟩, size⟩⟩ := reading
  obtain ⟨only, rfl⟩ := List.length_eq_one_iff.mp size
  cases answer with
  | error fault => simp [Reading.firstByte, Except.map]
  | ok count => simp [Reading.firstByte, Except.map, Vector.toList]

/-- A board finds a byte just if the bus reported no more than that one. -/
theorem readByte_eq_ok_iff {β ρ γ δ : Type} [Bus β] [OutputPin ρ] [BiasSupply γ] [Timer δ]
    (board : Board β ρ γ δ) (register : UInt32) (byte : UInt8) :
    (Host.readByte register board).1 = .ok byte ↔
      let read := (Bus.read register (Vector.replicate 1 0) board.bus).1
      ∃ count, read.1 = some count ∧ count ≤ 1 ∧ read.2.toList = [byte] := by
  let read := (Bus.read register (Vector.replicate 1 0) board.bus).1
  have reading : (Host.readInto register (Vector.replicate 1 0) board).1 =
      ⟨CountPolicy.answer .refuse 1 read.1, read.2⟩ := Board.readsBy.reading register _ board
  show ((Host.readInto register (Vector.replicate 1 0) board).1).firstByte = .ok byte ↔
    ∃ count, read.1 = some count ∧ count ≤ 1 ∧ read.2.toList = [byte]
  rw [reading, firstByte_eq_ok_iff]
  cases read.1 with
  | none => simp [CountPolicy.answer]
  | some count =>
    by_cases beyond : 1 < count
    · simp [CountPolicy.answer, beyond]
    · simp [CountPolicy.answer, beyond, Nat.le_of_not_lt beyond]

/-- **A check over a board and one over a host that hands on the counts agree until the bus first
    reports too much**, for every bus and for every such host. The last part is about reads of one
    byte. -/
theorem checks_agree_until_overrun {σ β ρ γ δ : Type} [Host σ] [Bus β] [OutputPin ρ]
    [BiasSupply γ] [Timer δ] {busOf : σ → β} (handsOn : ReadsBy .handOn busOf) (model : Model)
    (board : Board β ρ γ δ) (host : σ) (same : busOf host = board.bus) :
    (let strict := checkLiveness { model, host := some board, state := .active }
      let direct := checkLiveness { model, host := some host, state := .active }
      ∃ lastBoard lastHost,
        strict.state = { model, host := some lastBoard, state := .active } ∧
        direct.state = { model, host := some lastHost, state := .active } ∧
        Compares model.datasheet.link.probes board.bus strict lastBoard.bus direct
          (busOf lastHost)) ∧
      ∀ (register : UInt32) (byte : UInt8), (Host.readByte register board).1 = .ok byte ↔
        let read := (Bus.read register (Vector.replicate 1 0) board.bus).1
        ∃ count, read.1 = some count ∧ count ≤ 1 ∧ read.2.toList = [byte] := by
  constructor
  · intro strict direct
    refine ⟨(model.isAlive board).state, (model.isAlive host).state, ?_, ?_, ?_⟩
    · exact congrArg Report.state (checkLiveness_of_host rfl rfl)
    · exact congrArg Report.state (checkLiveness_of_host rfl rfl)
    · exact checkLiveness_compares_of_readsBy Board.readsBy handsOn model same
  · exact readByte_eq_ok_iff board

/-- The bytes of the second register are right, and far more of them are reported than were asked
    for. -/
theorem checks_part_over_shelf :
    let slots : Vector Probe probeSlots := #v[⟨0x0A, [0x1C]⟩, ⟨0x09, [0x80, 0x73]⟩, {}]
    let model : Model := { name := "shelved", datasheet := { link := { slots } } }
    let shelf : Shelf := ⟨[(0x0A, [0x1C], 1), (0x09, [0x80, 0x73, 0x04], 200)]⟩
    let board : Board Shelf Willing (PinRail Willing) Willing := ⟨shelf, ⟨⟩, ⟨⟨⟩⟩, ⟨⟩⟩
    let host : Plugged Shelf := ⟨shelf⟩
    let strict := checkLiveness { model, host := some board, state := .active }
    let direct := checkLiveness { model, host := some host, state := .active }
    ReadsBy .handOn (Plugged.bus : Plugged Shelf → Shelf) ∧ host.bus = board.bus ∧
      strict.outcome = .error (.stopped .bufferTooSmall) ∧ direct.outcome = .ok true ∧
      ∃ lastBoard lastHost : Shelf,
        Compares model.datasheet.link.probes board.bus strict lastBoard direct lastHost := by
  intro slots model shelf board host strict direct
  obtain ⟨⟨lastBoard, lastHost, -, -, compares⟩, -⟩ :=
    checks_agree_until_overrun Plugged.readsBy model board host rfl
  exact ⟨Plugged.readsBy, rfl, by decide, by decide, lastBoard.bus, lastHost.bus, compares⟩

end Panel

end DsiPanel
