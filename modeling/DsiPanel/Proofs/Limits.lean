import Mathlib.Data.List.Forall2
import DsiPanel.Proofs.Blocks

/-!
# What reaches the host stays within the limits

A table may hold a write of any length, and a datasheet may expect any number of bytes of a
register: neither is judged when it is written down. So that no host has to cope with them rests
on two guards alone, one in the walk of a table and one in a liveness check, and on no other path
leading to the host.

> **Whatever is asked of a panel, in whatever order**, a write that reaches the host is an entry of
> the table that was being sent, unchanged and within the limit, and a read has a buffer that is
> just as long as what is expected of its register.

`WithinLimits` says it of one request and its report, and `calls_within_limits` of every session.
The first half goes by plans: a call is a demand of its plan (`Carried.ask_mem`), and a demand that
is a write is an entry of its table (`Table.writeFrom_of_ask`).
-/

set_option autoImplicit false

namespace DsiPanel

variable {σ : Type}

/-! ## Writes -/

/-- A write is that of an entry, within the limit, and as urgent as the walk of the table is. -/
structure WriteFrom (table : Table) (urgent : Bool) (opcode : UInt32) (parameters : List UInt8)
    (flag : Bool) : Prop where
  entry : .write opcode parameters ∈ table
  length : parameters.length ≤ maxParameters
  urgent : flag = urgent

section

variable {urgent flag : Bool} {opcode : UInt32} {parameters : List UInt8}

theorem Entry.eq_write_of_ask {entry : Entry}
    (asked : .ask (.write opcode parameters flag) ∈ entry.demands urgent) :
    entry = .write opcode parameters ∧ parameters.length ≤ maxParameters ∧ flag = urgent := by
  cases entry with
  | delay milliseconds =>
    rw [demands] at asked
    split at asked <;> simp at asked
  | microDelay | endMark => simp [demands] at asked
  | write register bytes =>
    rw [demands] at asked
    split at asked
    · simp at asked
    · rename_i within
      -- The only demand is the write itself, and the guard has let it through.
      cases List.mem_singleton.mp asked
      exact ⟨rfl, Nat.le_of_not_lt within, rfl⟩

theorem Table.writeFrom_of_ask {table : Table}
    (asked : .ask (.write opcode parameters flag) ∈ table.plan urgent) :
    WriteFrom table urgent opcode parameters flag := by
  obtain ⟨entry, among, demanded⟩ := List.mem_flatMap.mp asked
  obtain ⟨rfl, within, same⟩ := Entry.eq_write_of_ask demanded
  exact ⟨among, within, same⟩

theorem Script.write_not_mem_plan {script : Script} :
    .ask (.write opcode parameters flag) ∉ script.plan := by
  intro asked
  obtain ⟨step, -, same⟩ := List.mem_map.mp asked
  cases step <;> cases same

/-- The table that is sent on the way. -/
def Model.table (model : Model) : Direction → Table
  | .up => model.initTable
  | .down => model.suspendTable

theorem Model.writeFrom_of_ask {model : Model} {direction : Direction}
    (asked : .ask (.write opcode parameters flag) ∈ model.plan direction) :
    WriteFrom (model.table direction) true opcode parameters flag := by
  cases direction with
  | up =>
    rcases List.mem_append.mp asked with inScript | inTable
    · exact absurd inScript Script.write_not_mem_plan
    · exact Table.writeFrom_of_ask inTable
  | down =>
    rcases List.mem_append.mp asked with inTable | inScript
    · exact Table.writeFrom_of_ask inTable
    · exact absurd inScript Script.write_not_mem_plan

theorem Table.writeFrom_of_acted [Host σ] {table : Table} {host : σ} {answer : Except Fault Unit}
    (happened : .acted (.write opcode parameters flag) answer ∈ (table.send urgent host).events) :
    WriteFrom table urgent opcode parameters flag :=
  writeFrom_of_ask ((send_carried table urgent host).ask_mem (mem_callsOf.mpr happened))

end

/-! ## Reads -/

/-- A read has room for what is expected of its register, and that is something. -/
structure ReadFor (probe : Probe) (register : UInt32) (offered : List UInt8) : Prop where
  register : register = probe.register
  length : offered.length = probe.expected.length
  pos : 1 ≤ offered.length
  within : offered.length ≤ maxParameters

theorem Scratch.probe_of_read [Host σ] {panel : String} {scratch : Scratch} {probes : List Probe}
    {host : σ} {register : UInt32} {offered filled : List UInt8} {answer : Except Fault Nat}
    (happened : .read register offered answer filled ∈ (scratch.check panel probes host).events) :
    ∃ probe ∈ probes, register = probe.register ∧ offered.length = probe.expected.length ∧
      offered.length ≤ maxParameters := by
  induction probes generalizing scratch host with
  | nil => cases happened
  | cons probe rest ih =>
    have first {read : ReadCall} (within : probe.expected.length ≤ maxParameters)
        (isOf : read.IsOf probe) : ∃ other ∈ probe :: rest, read.register = other.register ∧
          read.offered.length = other.expected.length ∧ read.offered.length ≤ maxParameters :=
      ⟨probe, List.mem_cons_self, isOf.register, isOf.offered, isOf.offered ▸ within⟩
    have taken := scratch.check_taken panel probe rest host
    generalize scratch.check panel (probe :: rest) host = report at taken happened
    cases taken with
    | overlong => cases happened
    | failed within isOf =>
      cases List.mem_singleton.mp happened
      exact first within isOf
    | passed passes =>
      rcases List.mem_cons.mp happened with here | later
      · cases here
        exact first passes.within passes.isOf
      · obtain ⟨other, among, rest⟩ := ih later
        exact ⟨other, List.mem_cons_of_mem _ among, rest⟩
    | differs within isOf =>
      rcases List.mem_cons.mp happened with here | noted
      · cases here
        exact first within isOf
      · -- A register that differs is noted, and that is the end.
        cases List.mem_singleton.mp noted

theorem Model.readFor_of_read [Host σ] {model : Model} {host : σ} {register : UInt32}
    {offered filled : List UInt8} {answer : Except Fault Nat}
    (happened : .read register offered answer filled ∈ (model.isAlive host).events) :
    ∃ probe ∈ model.datasheet.link.slots.toList, ReadFor probe register offered := by
  obtain ⟨probe, used, same, length, within⟩ := Scratch.probe_of_read happened
  have something : probe.expected ≠ [] := Link.expected_ne_nil_of_mem_probes used
  refine ⟨probe, List.mem_of_mem_filter used, same, length, ?_, within⟩
  rw [length]
  exact List.length_pos_iff.mpr something

/-! ## Single requests -/

namespace Panel

/-- Only operations reach the host. Those with a sequence write entries of its table and read
    nothing; a check reads for the slots of the model and does nothing else. -/
structure WithinLimits (model : Model) (request : Request σ)
    (report : Report Error (Panel σ) (Answer σ)) : Prop where
  acts : ∀ {action answer}, .acted action answer ∈ report.events →
    ∃ operation, request = .perform operation ∧ operation ≠ .checkLiveness
  writes : ∀ {opcode parameters flag answer},
    .acted (.write opcode parameters flag) answer ∈ report.events →
      ∃ operation direction, request = .perform operation ∧
        operation.direction? = some direction ∧
        WriteFrom (model.table direction) true opcode parameters flag
  reads : ∀ {register offered answer filled},
    .read register offered answer filled ∈ report.events →
      request = .perform .checkLiveness ∧
        ∃ probe ∈ model.datasheet.link.slots.toList, ReadFor probe register offered

variable [Host σ]

section

variable {panel : Panel σ} {operation : Operation} {report : Report Error (Panel σ) (Answer σ)}

theorem Ended.ask_mem (ended : Ended panel operation report) {action : Action}
    {answer : Except Fault Unit} (happened : .acted action answer ∈ report.events) :
    ∃ direction, operation.direction? = some direction ∧
      .ask action ∈ panel.model.plan direction := by
  have made : ⟨action, answer⟩ ∈ report.calls := mem_callsOf.mpr happened
  obtain ⟨direction, ending, moves, -, carried⟩ := ended.carried (List.ne_nil_of_mem made)
  exact ⟨direction, moves, carried.ask_mem made⟩

theorem Ended.withinLimits (ended : Ended panel operation report) :
    WithinLimits panel.model (.perform operation) report where
  acts := by
    intro action answer happened
    obtain ⟨direction, moves, -⟩ := ended.ask_mem happened
    refine ⟨operation, rfl, ?_⟩
    rintro rfl
    cases moves
  writes := by
    intro opcode parameters flag answer happened
    obtain ⟨direction, moves, asked⟩ := ended.ask_mem happened
    exact ⟨operation, direction, rfl, moves, Model.writeFrom_of_ask asked⟩
  reads := by
    intro register offered answer filled happened
    obtain ⟨rfl, -, -⟩ := ended.of_read happened
    refine ⟨rfl, ?_⟩
    cases ended with
    | refused => cases happened
    | hostless => simp [remarks] at happened
    | completed _ _ moves | stopped _ _ moves => cases moves
    | checked => exact Model.readFor_of_read happened

end

theorem withinLimits_serve (panel : Panel σ) (request : Request σ) :
    WithinLimits panel.model request (serve request panel) := by
  cases request with
  | configure host =>
    -- The journal has a line of it, and the host has no part in it.
    rw [serve_configure]
    constructor <;> simp
  | adjust change =>
    rw [serve_adjust]
    constructor <;> simp
  | perform operation => exact (ended_perform panel operation).withinLimits

theorem withinLimits_serveAll (panel : Panel σ) (requests : List (Request σ)) :
    List.Forall₂ (WithinLimits panel.model) requests (serveAll panel requests).1 := by
  induction requests generalizing panel with
  | nil => exact .nil
  | cons request rest ih =>
    have later := ih (serve request panel).state
    rw [serve_model] at later
    exact .cons (withinLimits_serve panel request) later

/-- **Nothing outside the limits reaches the host**, whatever the tables and the slots of the model
    hold, in whatever state the panel is and whatever is asked of it. A table that is sent without
    a panel keeps to the same limit, urgent or not. -/
theorem calls_within_limits (panel : Panel σ) (requests : List (Request σ)) :
    List.Forall₂ (WithinLimits panel.model) requests (serveAll panel requests).1 ∧
      ∀ (table : Table) (urgent : Bool) (host : σ) {opcode parameters flag answer},
        .acted (.write opcode parameters flag) answer ∈ (table.send urgent host).events →
          WriteFrom table urgent opcode parameters flag :=
  ⟨withinLimits_serveAll panel requests, fun _ _ _ _ _ _ _ happened =>
    Table.writeFrom_of_acted happened⟩

end Panel

end DsiPanel
