import DsiPanel.Proofs.Plan

/-!
# The walk of a table, entry by entry

A plan says what a table demands, and has forgotten the entries: an end mark is nothing in it, and
where a demand comes from cannot be told. This file keeps the entries. An **attempt** at an entry
is one call on the host, or none, and it says how it went; `Sent` makes the attempts at some
entries one after the other, each on the host that the one before left; and `Walked` ends them,
with the table or with the first attempt that failed.

> **Sending a table is walking it**, and there is one walk: `send_walks`.

`Entry.primitive` is the table of what each kind of entry comes down to, with its two numbers
written out. It does not go through the walk that is under proof.
-/

set_option autoImplicit false

namespace DsiPanel

variable {σ : Type}

/-! ## One entry -/

/-- The action that an entry comes down to, if there is one, or the limit that it breaks. -/
def Entry.primitive (urgent : Bool) : Entry → Except Fault (Option Action)
  | .delay milliseconds =>
    if milliseconds.toNat ≤ 10 then .ok (some (.waitUs (.ofNat (1000 * milliseconds.toNat))))
    else .ok (some (.waitMs milliseconds))
  | .microDelay microseconds => .ok (some (.waitUs microseconds))
  | .endMark => .ok none
  | .write opcode parameters =>
    if parameters.length ≤ 64 then .ok (some (.write opcode parameters urgent))
    else .error .tooManyParameters

variable [Host σ]

/-- One attempt at an entry: its action is asked for once, if it comes down to one. -/
def Entry.attempt (urgent : Bool) (entry : Entry) (host : σ) : Report Fault σ Unit :=
  match entry.primitive urgent with
  | .ok (some action) =>
    ⟨(Host.act action host).1, [.acted action (Host.act action host).1], (Host.act action host).2⟩
  | .ok none => ⟨.ok (), [], host⟩
  | .error fault => ⟨.error fault, [], host⟩

/-- The plan of an entry is its primitive; a limit that it breaks is refused. -/
theorem Entry.demands_eq (urgent : Bool) (entry : Entry) :
    entry.demands urgent =
      match entry.primitive urgent with
      | .ok (some action) => [.ask action]
      | .ok none => []
      | .error _ => [.refuse] := by
  cases entry with
  | delay milliseconds =>
    have limit : milliseconds ≤ shortDelayMs ↔ milliseconds.toNat ≤ 10 := UInt32.le_iff_toNat_le
    -- The walk multiplies in words, and that makes no difference here.
    have product : UInt32.ofNat (1000 * milliseconds.toNat) = milliseconds * 1000 := by
      rw [UInt32.ofNat_mul, UInt32.ofNat_toNat, UInt32.mul_comm]
      rfl
    by_cases short : milliseconds.toNat ≤ 10
    · rw [demands, primitive, if_pos (limit.mpr short), if_pos short, product]
    · rw [demands, primitive, if_neg (mt limit.mp short), if_neg short]
  | microDelay microseconds => rfl
  | endMark => rfl
  | write opcode parameters =>
    have limit : maxParameters < parameters.length ↔ ¬ parameters.length ≤ 64 := Nat.not_le.symm
    by_cases within : parameters.length ≤ 64
    · rw [demands, primitive, if_neg fun long => limit.mp long within, if_pos within]
    · rw [demands, primitive, if_pos (limit.mpr within), if_neg within]

theorem Entry.eq_tooManyParameters_of_primitive {urgent : Bool} {entry : Entry} {fault : Fault}
    (broken : entry.primitive urgent = .error fault) : fault = .tooManyParameters := by
  cases entry with
  | microDelay | endMark => cases broken
  | delay milliseconds =>
    rw [primitive] at broken
    split at broken <;> cases broken
  | write opcode parameters =>
    rw [primitive] at broken
    split at broken
    · cases broken
    · exact (Except.error.inj broken).symm

/-- Meeting the demands of an entry is one attempt at it. -/
theorem Entry.run_demands (urgent : Bool) (entry : Entry) (host : σ) :
    (Plan.run (entry.demands urgent) : Run Fault σ Unit) host = entry.attempt urgent host := by
  rw [demands_eq, attempt]
  cases asked : entry.primitive urgent with
  | error fault =>
    rw [eq_tooManyParameters_of_primitive asked]
    rfl
  | ok action? =>
    cases action? with
    | none => rfl
    | some action =>
      rw [Plan.run_singleton]
      rfl

/-! ## Many entries -/

/-- Every attempt at the entries went well, each made on the host that the one before left. These
    are the calls of all of them, and this is the host after the last. -/
inductive Sent (urgent : Bool) : Table → σ → List Event → σ → Prop where
  | nil {host : σ} : Sent urgent [] host [] host
  | cons {entry : Entry} {rest : Table} {host last : σ} {events : List Event}
      (went : (entry.attempt urgent host).outcome = .ok ())
      (later : Sent urgent rest (entry.attempt urgent host).state events last) :
      Sent urgent (entry :: rest) host ((entry.attempt urgent host).events ++ events) last

/-- How a walk ends. Either all entries were sent, or those before some entry were, and the attempt
    at that one failed: then the walk ends as that attempt does. -/
inductive Walked (urgent : Bool) (table : Table) (host : σ) : Report Fault σ Unit → Prop where
  | complete {events : List Event} {last : σ} (sent : Sent urgent table host events last) :
      Walked urgent table host ⟨.ok (), events, last⟩
  | stopped {before after : Table} {entry : Entry} {events : List Event} {between : σ}
      {fault : Fault} (split : table = before ++ entry :: after)
      (sent : Sent urgent before host events between)
      (failed : (entry.attempt urgent between).outcome = .error fault) :
      Walked urgent table host ((entry.attempt urgent between).after events)

namespace Walked

variable {urgent : Bool} {entry : Entry} {rest : Table} {host : σ} {report : Report Fault σ Unit}

theorem nil_iff : Walked urgent [] host report ↔ report = ⟨.ok (), [], host⟩ := by
  constructor
  · intro walked
    cases walked with
    | complete sent => cases sent; rfl
    | stopped split => simp at split
  · rintro rfl
    exact .complete .nil

theorem cons_iff_of_ok (went : (entry.attempt urgent host).outcome = .ok ()) :
    Walked urgent (entry :: rest) host report ↔
      ∃ later, Walked urgent rest (entry.attempt urgent host).state later ∧
        report = later.after (entry.attempt urgent host).events := by
  constructor
  · intro walked
    cases walked with
    | complete sent =>
      cases sent with
      | cons _ later => exact ⟨_, .complete later, rfl⟩
    | @stopped before _ _ _ _ _ split sent failed =>
      -- The entry that failed is not the first one, since that one went well.
      cases before with
      | nil =>
        cases sent
        cases split
        rw [went] at failed
        cases failed
      | cons first before =>
        cases sent with
        | cons _ later =>
          cases split
          exact ⟨_, .stopped rfl later failed, (Report.after_after _ _ _).symm⟩
  · rintro ⟨later, walked, rfl⟩
    cases walked with
    | complete sent => exact .complete (.cons went sent)
    | @stopped before after _ _ _ _ split sent failed =>
      rw [Report.after_after]
      exact .stopped (congrArg (entry :: ·) split) (.cons went sent) failed

theorem cons_iff_of_error {fault : Fault}
    (failed : (entry.attempt urgent host).outcome = .error fault) :
    Walked urgent (entry :: rest) host report ↔ report = entry.attempt urgent host := by
  constructor
  · intro walked
    cases walked with
    | complete sent =>
      cases sent with
      | cons went =>
        rw [failed] at went
        cases went
    | @stopped before _ _ _ _ _ split sent =>
      cases before with
      | nil =>
        cases sent
        cases split
        exact Report.after_nil _
      | cons first before =>
        cases split
        cases sent with
        | cons went =>
          rw [failed] at went
          cases went
  · rintro rfl
    rw [← Report.after_nil (entry.attempt urgent host)]
    exact .stopped (rfl : entry :: rest = [] ++ entry :: rest) .nil failed

end Walked

/-! ## Sending is walking -/

section

variable {urgent : Bool} {table : Table} {host : σ} {report : Report Fault σ Unit}

theorem Table.quiet_send (table : Table) (urgent : Bool) (host : σ) :
    (table.send urgent host).quiet = (table.plan urgent).run host :=
  congrFun (send_quiet urgent table) host

/-- There is one walk of a table, and its plan makes it. -/
theorem Table.walked_iff_plan :
    Walked urgent table host report ↔ report = (table.plan urgent).run host := by
  induction table generalizing host report with
  | nil => exact Walked.nil_iff
  | cons entry rest ih =>
    rw [plan_cons, Plan.run_append]
    cases attempted : (entry.attempt urgent host).outcome with
    | ok =>
      rw [Walked.cons_iff_of_ok attempted]
      rw [← Entry.run_demands] at attempted ⊢
      rw [Run.bind_of_ok attempted]
      simp only [ih, exists_eq_left]
    | error fault =>
      rw [Walked.cons_iff_of_error attempted]
      rw [← Entry.run_demands] at attempted ⊢
      rw [Run.bind_of_error attempted, ← attempted]

theorem Table.walked_iff :
    Walked urgent table host report ↔ report = (table.send urgent host).quiet := by
  rw [walked_iff_plan, quiet_send]

/-- What was sent is what sending says, of any table. -/
theorem Sent.send_quiet {events : List Event} {last : σ}
    (sent : Sent urgent table host events last) :
    (table.send urgent host).quiet = ⟨.ok (), events, last⟩ :=
  (Table.walked_iff.mp (.complete sent)).symm

theorem Table.sent_of_ok (complete : (table.send urgent host).outcome = .ok ()) :
    ∃ events last, Sent urgent table host events last ∧
      (table.send urgent host).calls = callsOf events := by
  have walked : Walked urgent table host (table.send urgent host).quiet := walked_iff.mpr rfl
  rw [← Report.outcome_quiet] at complete
  rw [← Report.calls_quiet]
  generalize (table.send urgent host).quiet = whole at walked complete
  cases walked with
  | complete sent => exact ⟨_, _, sent, rfl⟩
  | stopped _ _ failed =>
    rw [Report.outcome_after, failed] at complete
    cases complete

/-- The table is sent up to an entry, and the attempt at that one ends the walk with the fault. -/
structure StopsAt (urgent : Bool) (table : Table) (host : σ) (fault : Fault) (before : Table)
    (entry : Entry) : Prop where
  split : ∃ after, table = before ++ entry :: after
  sent : (before.send urgent host).outcome = .ok ()
  failed : (entry.attempt urgent (before.send urgent host).state).outcome = .error fault
  calls : (table.send urgent host).calls = (before.send urgent host).calls ++
    (entry.attempt urgent (before.send urgent host).state).calls

theorem Table.stopsAt_of_error {fault : Fault}
    (stopped : (table.send urgent host).outcome = .error fault) :
    ∃ before entry, StopsAt urgent table host fault before entry := by
  have walked : Walked urgent table host (table.send urgent host).quiet := walked_iff.mpr rfl
  rw [← Report.outcome_quiet] at stopped
  generalize whole : (table.send urgent host).quiet = report at walked stopped
  cases walked with
  | complete => cases stopped
  | @stopped before after entry earlier between _ split sent =>
    -- What was sent before the entry is what sending those entries alone says.
    have first := sent.send_quiet
    have ending : (before.send urgent host).outcome = .ok () := congrArg Report.outcome first
    have state : (before.send urgent host).state = between := congrArg Report.state first
    have calls : (before.send urgent host).calls = callsOf earlier := by
      rw [← Report.calls_quiet, first]
      rfl
    refine ⟨before, entry, ⟨after, split⟩, ending, by rw [state]; exact stopped, ?_⟩
    rw [← Report.calls_quiet, whole, calls, state]
    exact callsOf_append _ _

end

/-- **Sending a table is walking it**, and there is no other walk. An end mark does not stop it: a
    table is sent as if the mark were not there. -/
theorem send_walks (urgent : Bool) (host : σ) :
    (∀ table report, Walked urgent table host report ↔ report = (table.send urgent host).quiet) ∧
      ∀ before after : Table, (Table.send (before ++ .endMark :: after) urgent host).quiet =
        (Table.send (before ++ after) urgent host).quiet := by
  refine ⟨fun table report => Table.walked_iff, fun before after => ?_⟩
  have same : Table.plan (before ++ .endMark :: after) urgent =
      Table.plan (before ++ after) urgent := by
    simp [Table.plan, Entry.demands]
  rw [Table.quiet_send, Table.quiet_send, same]

end DsiPanel
