import Mathlib.Data.List.Forall2
import DsiPanel.Host.Bench
import DsiPanel.Proofs.Verdict

/-!
# What earlier probes leave behind

The reads of one check share a scratch buffer that is cleared once. So the second read finds the
bytes of the first, and whether that matters is up to the host: one that reports more bytes than
it stored has a register judged by the bytes of another, and one that looks into the buffer can go
on in any way that it likes.

`Probe.ReadAfresh` says that a host does neither: nothing it answers and nothing it does next
depends on what the buffer held, and once it reports the buffer to be full, it has filled it. A
count that is too high is no harm as long as it stays below the expected length, since then the
register differs whatever the buffer holds.

> **Where the probes are read afresh, they are judged one by one**: a check of all slots is a check
> of a panel for each slot, up to the first that does not find its panel well
> (`checkLiveness_slot_by_slot`).

The probe that is read first is free of this condition, for it finds the buffer cleared.

What is said of one probe, `Probe.alone`, is said without the check: a single read into a cleared
buffer. It holds of any host, for a check of a single slot makes no other read.
-/

set_option autoImplicit false

namespace DsiPanel

variable {σ : Type}

/-! ## Reading afresh -/

/-- The read of the probe does not show what the buffer held before. -/
structure Probe.ReadAfresh [Host σ] (probe : Probe) (host : σ) : Prop where
  count : ∀ old new : Vector UInt8 probe.expected.length,
    (Host.readInto probe.register old host).1.count =
      (Host.readInto probe.register new host).1.count
  next : ∀ old new : Vector UInt8 probe.expected.length,
    (Host.readInto probe.register old host).2 = (Host.readInto probe.register new host).2
  filled : ∀ (old new : Vector UInt8 probe.expected.length) {count : Nat},
    (Host.readInto probe.register old host).1.count = .ok count →
      probe.expected.length ≤ count →
        (Host.readInto probe.register old host).1.buffer =
          (Host.readInto probe.register new host).1.buffer

/-- The probe is read afresh in whatever state calls may bring the host to. -/
def Probe.AlwaysReadAfresh [Host σ] (probe : Probe) (host : σ) : Prop :=
  ∀ events last, Underwent host events last → probe.ReadAfresh last

theorem Probe.AlwaysReadAfresh.after [Host σ] {probe : Probe} {host next : σ} {events : List Event}
    (afresh : probe.AlwaysReadAfresh host) (underwent : Underwent host events next) :
    probe.AlwaysReadAfresh next :=
  fun _ _ later => afresh _ _ (underwent.append later)

/-! ## One probe -/

/-- What a run comes to when its events are left out. -/
def Report.result {ε α : Type} (report : Report ε σ α) : Except ε α × σ :=
  (report.outcome, report.state)

@[simp] theorem Report.result_after {ε α : Type} (report : Report ε σ α) (earlier : List Event) :
    (report.after earlier).result = report.result := rfl

/-- What the reading of a probe says about the panel. -/
def Probe.judge (probe : Probe) {n : Nat} (reading : Reading n) : Except Fault Bool :=
  reading.count.map fun count => decide (reading.buffer.toList.take count = probe.expected)

/-- What a probe says on its own. It is given a cleared buffer for just the expected bytes, and it
    is not read at all if these are too many. -/
def Probe.alone [Host σ] (probe : Probe) (host : σ) : Except Fault Bool × σ :=
  if probe.expected.length ≤ maxParameters then
    let read := Host.readInto probe.register (Vector.replicate probe.expected.length 0) host
    (probe.judge read.1, read.2)
  else (.error .bufferTooSmall, host)

/-- What a slot says on its own: that all is well, if there is no probe in it. -/
def Probe.verdict [Host σ] (probe : Probe) (host : σ) : Except Fault Bool × σ :=
  if probe.isUsed then probe.alone host else (.ok true, host)

section

variable [Host σ] {panel : String} {scratch : Scratch} {probe : Probe} {rest : List Probe}
  {host : σ}

theorem Scratch.result_check_of_long (long : maxParameters < probe.expected.length) :
    (scratch.check panel (probe :: rest) host).result = (.error .bufferTooSmall, host) := by
  rw [check, dif_neg (Nat.not_le_of_lt long)]
  rfl

/-- A probe that finds the panel well hands on to the next, and any other has the last word. -/
theorem Scratch.result_check_cons (fits : probe.expected.length ≤ maxParameters) :
    (scratch.check panel (probe :: rest) host).result =
      let read := Host.readInto probe.register (scratch.window probe.expected.length fits) host
      if probe.judge read.1 = .ok true then
        ((scratch.store read.1.buffer).check panel rest read.2).result
      else (probe.judge read.1, read.2) := by
  rw [check, dif_pos fits]
  cases asked : Host.readInto probe.register (scratch.window probe.expected.length fits) host with
  | mk reading next =>
    obtain ⟨answer, filled⟩ := reading
    rw [Run.bind_apply, Run.read_apply, asked]
    cases answer with
    | error fault => rfl
    | ok count =>
      by_cases same : filled.toList.take count = probe.expected
      · simp [Probe.judge, Except.map, same]
      · simp [Probe.judge, Except.map, same, Run.map_apply, Report.result]

theorem Scratch.result_check_single (fits : probe.expected.length ≤ maxParameters) :
    (scratch.check panel [probe] host).result =
      let read := Host.readInto probe.register (scratch.window probe.expected.length fits) host
      (probe.judge read.1, read.2) := by
  let read := Host.readInto probe.register (scratch.window probe.expected.length fits) host
  rw [result_check_cons fits]
  by_cases well : probe.judge read.1 = .ok true
  · -- Nothing is left to be read, and the check ends as the probe does.
    exact (if_pos well).trans (Prod.ext well.symm rfl)
  · exact if_neg well

theorem Scratch.result_check_alone (panel : String) (probe : Probe) (host : σ) :
    (cleared.check panel [probe] host).result = probe.alone host := by
  unfold Probe.alone
  by_cases fits : probe.expected.length ≤ maxParameters
  · have window : cleared.window probe.expected.length fits = Vector.replicate _ 0 := by
      ext i within
      rw [getElem_window _ fits within]
      simp [cleared]
    rw [result_check_single fits, window, if_pos fits]
  · rw [result_check_of_long (Nat.lt_of_not_le fits), if_neg fits]

/-- A check goes on from its first probe only if that finds the panel well, and then with the
    buffer as the read has left it. -/
theorem Scratch.exists_result_check_cons (panel : String) (scratch : Scratch) (probe : Probe)
    (rest : List Probe) (host : σ) :
    ∃ left : Scratch, (scratch.check panel (probe :: rest) host).result =
      if (scratch.check panel [probe] host).result.1 = .ok true then
        (left.check panel rest (scratch.check panel [probe] host).result.2).result
      else (scratch.check panel [probe] host).result := by
  by_cases fits : probe.expected.length ≤ maxParameters
  · let read := Host.readInto probe.register (scratch.window probe.expected.length fits) host
    refine ⟨scratch.store read.1.buffer, ?_⟩
    rw [result_check_single fits]
    exact result_check_cons fits
  · have long : maxParameters < probe.expected.length := Nat.lt_of_not_le fits
    refine ⟨scratch, ?_⟩
    rw [result_check_of_long long, result_check_of_long long]
    rfl

theorem Probe.ReadAfresh.judge_eq (afresh : probe.ReadAfresh host)
    (old new : Vector UInt8 probe.expected.length) :
    probe.judge (Host.readInto probe.register old host).1 =
      probe.judge (Host.readInto probe.register new host).1 := by
  unfold judge
  rw [← afresh.count old new]
  cases answer : (Host.readInto probe.register old host).1.count with
  | error fault => rfl
  | ok count =>
    apply congrArg Except.ok
    apply decide_eq_decide.mpr
    rw [take_eq_iff _ rfl, take_eq_iff _ rfl]
    -- Only a count that covers the window lets the bytes decide.
    apply and_congr_right
    intro enough
    rw [afresh.filled old new answer enough]

theorem Probe.ReadAfresh.result_check_eq (afresh : probe.ReadAfresh host) (first second : Scratch) :
    (first.check panel [probe] host).result = (second.check panel [probe] host).result := by
  by_cases fits : probe.expected.length ≤ maxParameters
  · rw [Scratch.result_check_single fits, Scratch.result_check_single fits]
    exact Prod.ext (afresh.judge_eq _ _) (afresh.next _ _)
  · have long : maxParameters < probe.expected.length := Nat.lt_of_not_le fits
    rw [Scratch.result_check_of_long long, Scratch.result_check_of_long long]

end

/-! ## Probe by probe -/

section

variable [Host σ]

/-- Check the probes one by one, each with a buffer of its own, up to the first that does not find
    the panel well. -/
def checkEach : List Probe → σ → Except Fault Bool × σ
  | [], host => (.ok true, host)
  | probe :: rest, host =>
    if (probe.alone host).1 = .ok true then checkEach rest (probe.alone host).2
    else probe.alone host

variable {panel : String} {scratch : Scratch} {probe : Probe} {probes rest : List Probe} {host : σ}

/-- If it makes no difference to the first probe which buffer it gets, and none to the others, then
    it makes none. -/
theorem Scratch.result_check_step
    (same : (scratch.check panel [probe] host).result = probe.alone host)
    (later : ∀ {events next}, Underwent host events next → ∀ left : Scratch,
      (left.check panel rest next).result = checkEach rest next) :
    (scratch.check panel (probe :: rest) host).result = checkEach (probe :: rest) host := by
  obtain ⟨left, checked⟩ := exists_result_check_cons panel scratch probe rest host
  have made := check_recounts panel scratch [probe] host
  have next : (scratch.check panel [probe] host).state = (probe.alone host).2 :=
    congrArg Prod.snd same
  rw [next] at made
  rw [checked, same, checkEach, later made left]

theorem Scratch.result_check (afresh : ∀ probe ∈ probes, probe.AlwaysReadAfresh host)
    (scratch : Scratch) :
    (scratch.check panel probes host).result = checkEach probes host := by
  induction probes generalizing scratch host with
  | nil => rfl
  | cons probe rest ih =>
    apply result_check_step
    · rw [← result_check_alone panel]
      exact (afresh probe List.mem_cons_self _ _ .nothing).result_check_eq _ _
    · intro events next made left
      apply ih
      intro other among
      exact Probe.AlwaysReadAfresh.after (afresh other (List.mem_cons_of_mem _ among)) made

/-- The probe that is read first needs no condition: it is given a cleared buffer either way. -/
theorem Scratch.result_check_cleared (afresh : ∀ probe ∈ probes.tail, probe.AlwaysReadAfresh host) :
    (cleared.check panel probes host).result = checkEach probes host := by
  cases probes with
  | nil => rfl
  | cons probe rest =>
    apply result_check_step (result_check_alone panel probe host)
    intro events next made left
    apply result_check
    intro other among
    exact Probe.AlwaysReadAfresh.after (afresh other among) made

end

/-! ## Slot by slot -/

/-- The model with a single slot left of those that it had. -/
def Model.only (model : Model) (slot : Fin probeSlots) : Model :=
  let kept := model.datasheet.link.slots[slot]
  let link := { model.datasheet.link with slots := (Vector.replicate probeSlots {}).set slot kept }
  { model with datasheet := { model.datasheet with link } }

/-- A model for each slot, in slot order. -/
def Model.slotBySlot (model : Model) : List Model :=
  (List.finRange probeSlots).map model.only

theorem Model.probes_only (model : Model) (slot : Fin probeSlots) :
    (model.only slot).datasheet.link.probes =
      [model.datasheet.link.slots[slot]].filter Probe.isUsed := by
  have unused : Probe.isUsed {} = false := rfl
  have inside : slot.val < probeSlots := slot.isLt
  unfold Link.probes only
  simp only [Vector.toList_set, Vector.toList_replicate]
  simp [List.set_eq_take_append_cons_drop, List.filter_append, List.filter_cons,
    List.take_replicate, unused]

theorem Model.result_isAlive_only [Host σ] (model : Model) (slot : Fin probeSlots) (host : σ) :
    ((model.only slot).isAlive host).result = (model.datasheet.link.slots[slot]).verdict host := by
  rw [isAlive, probes_only, Probe.verdict]
  by_cases used : (model.datasheet.link.slots[slot]).isUsed = true
  · rw [List.filter_cons_of_pos used, List.filter_nil, if_pos used]
    exact Scratch.result_check_alone _ _ host
  · rw [List.filter_cons_of_neg used, List.filter_nil, if_neg used]
    rfl

/-- Together these models have the probes of the model, in their order. -/
theorem Model.flatMap_probes_only (model : Model) :
    (List.finRange probeSlots).flatMap (fun slot => (model.only slot).datasheet.link.probes) =
      model.datasheet.link.probes := by
  simp only [probes_only]
  rw [← List.filter_flatMap, ← List.map_eq_flatMap, Link.probes]
  congr 1
  apply List.ext_getElem <;> simp

/-- A shelf reads a probe afresh if it stores all the bytes of it that it may be asked for, or
    reports too few. -/
theorem Shelf.alwaysReadAfresh {shelf : Shelf} {probe : Probe} {bytes : List UInt8} {reported : Nat}
    (placed : shelf.cells.lookup probe.register = some (bytes, reported))
    (honest : probe.expected.length ≤ reported → probe.expected.length ≤ bytes.length) :
    probe.AlwaysReadAfresh shelf := by
  have unchanged : KeptByCalls (fun shelf : Shelf => shelf) := ⟨fun _ _ => rfl, fun _ _ _ => rfl⟩
  have taken (buffer : Vector UInt8 probe.expected.length) : shelf.take probe.register buffer =
      ⟨.ok reported, Vector.ofFn fun i => bytes.getD i.val buffer[i]⟩ := by
    rw [take, placed]
  intro events last underwent
  obtain rfl : last = shelf := underwent.badge_eq unchanged
  constructor
  · intro old new
    show (last.take _ old).count = (last.take _ new).count
    rw [taken old, taken new]
  · intro old new
    rfl
  · intro old new count answered enough
    change (last.take _ old).count = .ok count at answered
    show (last.take _ old).buffer = (last.take _ new).buffer
    rw [taken old] at answered
    cases answered
    have stored : probe.expected.length ≤ bytes.length := honest enough
    rw [taken old, taken new]
    ext i within
    have inside : i < bytes.length := Nat.lt_of_lt_of_le within stored
    simp [inside]

namespace Panel

variable [Host σ]

/-- Check panels of the models that display, one after the other and all over the same host, up to
    the first that is not found to be well. -/
def checkInTurn : List Model → Option σ → Except Error Bool × Option σ
  | [], host => (.ok true, host)
  | model :: rest, host =>
    let report := checkLiveness { model, host, state := .active }
    if report.outcome = .ok true then checkInTurn rest report.state.host
    else (report.outcome, report.state.host)

/-- What a panel makes of the verdict on its probes. -/
def verdictOf (checked : Except Fault Bool × σ) : Except Error Bool × Option σ :=
  (checked.1.mapError .stopped, some checked.2)

theorem checkLiveness_eq_verdictOf (model : Model) (held : σ) :
    let report := checkLiveness { model, host := some held, state := .active }
    (report.outcome, report.state.host) = verdictOf (model.isAlive held).result := by
  intro report
  simp only [report]
  rw [checkLiveness_of_host rfl rfl]
  rfl

theorem checkInTurn_cons (model : Model) (rest : List Model) (host : σ) :
    checkInTurn (model :: rest) (some host) =
      if (model.isAlive host).result.1 = .ok true then
        checkInTurn rest (some (model.isAlive host).result.2)
      else verdictOf (model.isAlive host).result := by
  rw [checkInTurn, checkLiveness_of_host rfl rfl]
  cases ending : (model.isAlive host).outcome with
  | error fault => simp [Report.result, verdictOf, ending, Except.mapError]
  | ok well => cases well <;> simp [Report.result, verdictOf, ending, Except.mapError]

theorem checkInTurn_only (model : Model) (slots : List (Fin probeSlots)) (host : σ) :
    checkInTurn (slots.map model.only) (some host) =
      verdictOf (checkEach
        (slots.flatMap fun slot => (model.only slot).datasheet.link.probes) host) := by
  induction slots generalizing host with
  | nil => rfl
  | cons slot rest ih =>
    rw [List.map_cons, checkInTurn_cons, Model.result_isAlive_only, List.flatMap_cons,
      Model.probes_only, Probe.verdict]
    by_cases used : (model.datasheet.link.slots[slot]).isUsed = true
    · rw [if_pos used, List.filter_cons_of_pos used, List.filter_nil, List.singleton_append,
        checkEach]
      split
      · exact ih _
      · rfl
    · -- An empty slot leaves nothing to check, and the host as it is.
      rw [if_neg used, List.filter_cons_of_neg used, List.filter_nil, List.nil_append]
      exact ih host

/-- **Where the probes are read afresh, they are judged one by one**, and the judgement on a single
    slot is the one on a buffer that nothing was read into before. The probe that is read first is
    free of the condition. -/
theorem checkLiveness_slot_by_slot (model : Model) (host : Option σ)
    (afresh : ∀ held ∈ host, ∀ probe ∈ model.datasheet.link.probes.tail,
      probe.AlwaysReadAfresh held) :
    (∀ (slot : Fin probeSlots) (held : σ),
      let report := checkLiveness { model := model.only slot, host := some held, state := .active }
      (report.outcome, report.state.host) =
        verdictOf ((model.datasheet.link.slots[slot]).verdict held)) ∧
    let report := checkLiveness { model, host, state := .active }
    (report.outcome, report.state.host) = checkInTurn model.slotBySlot host := by
  constructor
  · intro slot held
    rw [← Model.result_isAlive_only]
    exact checkLiveness_eq_verdictOf (model.only slot) held
  · intro report
    cases host with
    | none => rfl
    | some held =>
      calc (report.outcome, report.state.host)
          = verdictOf (model.isAlive held).result := checkLiveness_eq_verdictOf model held
        _ = verdictOf (checkEach model.datasheet.link.probes held) := by
            rw [Model.isAlive, Scratch.result_check_cleared (afresh held rfl)]
        _ = checkInTurn model.slotBySlot (some held) := by
            rw [Model.slotBySlot, checkInTurn_only, Model.flatMap_probes_only]

/-- A shelf that reports far more than it stores, but fills every buffer it reports to be full, with
    an empty slot between the two that are used. -/
theorem slot_by_slot_of_shelf :
    let slots : Vector Probe probeSlots := #v[⟨0x0A, [0x1C]⟩, {}, ⟨0x09, [0x80, 0x73]⟩]
    let model : Model := { name := "shelved", datasheet := { link := { slots } } }
    let shelf : Shelf := ⟨[(0x0A, [0x1C], 1), (0x09, [0x80, 0x73, 0x04], 200)]⟩
    (∀ probe ∈ model.datasheet.link.probes.tail, probe.AlwaysReadAfresh shelf) ∧
      let report := checkLiveness { model, host := some shelf, state := .active }
      (report.outcome, report.state.host) = checkInTurn model.slotBySlot (some shelf) ∧
        report.outcome = .ok true := by
  intro slots model shelf
  have afresh : ∀ probe ∈ model.datasheet.link.probes.tail, probe.AlwaysReadAfresh shelf := by
    intro probe among
    rw [List.mem_singleton.mp (among : probe ∈ [⟨0x09, [0x80, 0x73]⟩])]
    exact Shelf.alwaysReadAfresh rfl (by decide)
  obtain ⟨-, inTurn⟩ := checkLiveness_slot_by_slot model (some shelf) (by
    rintro _ ⟨⟩
    exact afresh)
  exact ⟨afresh, inTurn, by decide⟩

/-- **Leftovers can decide.** The second register of this shelf holds nothing, and one byte is
    reported for it: after a probe that left the right byte it passes, and on its own it does not.
    And a host that looks into its buffers can tell the two ways to check apart. -/
theorem leftovers_decide :
    let slots : Vector Probe probeSlots := #v[⟨0x0A, [0x1C]⟩, ⟨0x0B, [0x1C]⟩, {}]
    let model : Model := { name := "leftovers", datasheet := { link := { slots } } }
    let shelf : Shelf := ⟨[(0x0A, [0x1C], 1), (0x0B, [], 1)]⟩
    let peeper : Peeper := { byte := 0x1C }
    (checkLiveness { model, host := some shelf, state := .active }).outcome = .ok true ∧
      checkInTurn model.slotBySlot (some shelf) = (.ok false, some shelf) ∧
      (checkLiveness { model, host := some peeper, state := .active }).state.host ≠
        (checkInTurn model.slotBySlot (some peeper)).2 := by
  decide

end Panel

end DsiPanel
