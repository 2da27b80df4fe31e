import DsiPanel.Panel.Liveness

/-!
# One probe of a liveness check

A check deals with its first probe in one of four ways, and goes on in one of them. `Probe.Taken`
has the four, each with its events, and `Scratch.check_taken` says that there is no fifth. What is
said about checks is said by induction over the probes from there.

Reads are recorded with the buffer as it went out and as it came back (`ReadCall`). Where the bytes
in it come from is not asked here, nor what becomes of the host.
-/

set_option autoImplicit false

namespace DsiPanel

variable {σ : Type}

/-! ## Reads -/

/-- A call to read a register, with the buffer as it went out and as it came back. -/
structure ReadCall where
  register : UInt32
  offered : List UInt8
  answer : Except Fault Nat
  filled : List UInt8
  deriving DecidableEq

def ReadCall.event (read : ReadCall) : Event :=
  .read read.register read.offered read.answer read.filled

def Event.readCall? : Event → Option ReadCall
  | .read register offered answer filled => some ⟨register, offered, answer, filled⟩
  | _ => none

/-- The reads among some events, in order. -/
def readsOf (events : List Event) : List ReadCall :=
  events.filterMap Event.readCall?

@[simp] theorem readsOf_read (register : UInt32) (offered filled : List UInt8)
    (answer : Except Fault Nat) (events : List Event) :
    readsOf (.read register offered answer filled :: events) =
      ⟨register, offered, answer, filled⟩ :: readsOf events := rfl

def Report.reads {ε α : Type} (report : Report ε σ α) : List ReadCall :=
  readsOf report.events

namespace ReadCall

/-- The read is of the register of the probe, into a buffer for just the expected bytes. -/
structure IsOf (read : ReadCall) (probe : Probe) : Prop where
  register : read.register = probe.register
  offered : read.offered.length = probe.expected.length

/-- The read lets the check go on. A count beyond the expected length is as good as that length. -/
structure Passes (read : ReadCall) (probe : Probe) : Prop where
  within : probe.expected.length ≤ maxParameters
  isOf : read.IsOf probe
  reported : ∃ count, read.answer = .ok count ∧ probe.expected.length ≤ count
  filled : read.filled = probe.expected

end ReadCall

/-- The bytes that a check compares are the expected ones just if the count cut none of them off. -/
theorem take_eq_iff {n count : Nat} {expected : List UInt8} (filled : Vector UInt8 n)
    (length : expected.length = n) :
    filled.toList.take count = expected ↔ expected.length ≤ count ∧ filled.toList = expected := by
  constructor
  · intro same
    have lengths := congrArg List.length same
    rw [List.length_take, Vector.length_toList] at lengths
    have enough : n ≤ count := by omega
    rw [List.take_of_length_le (by simpa using enough)] at same
    exact ⟨length ▸ enough, same⟩
  · rintro ⟨enough, same⟩
    rw [same, List.take_of_length_le enough]

/-! ## The four ways -/

/-- The ways a check can deal with its first probe, each with what it reports. It goes on in one of
    them, with some buffer and some host that this read left. -/
inductive Probe.Taken (panel : String) (probe : Probe)
    (onward : Scratch → σ → Report Fault σ Bool) : Report Fault σ Bool → Prop where
  | overlong {host : σ} (long : maxParameters < probe.expected.length) :
      Taken panel probe onward ⟨.error .bufferTooSmall, [], host⟩
  | failed {read : ReadCall} {fault : Fault} {next : σ}
      (within : probe.expected.length ≤ maxParameters) (isOf : read.IsOf probe)
      (answered : read.answer = .error fault) :
      Taken panel probe onward ⟨.error fault, [read.event], next⟩
  | passed {read : ReadCall} {scratch : Scratch} {next : σ} (passes : read.Passes probe) :
      Taken panel probe onward ((onward scratch next).after [read.event])
  | differs {read : ReadCall} {count : Nat} {next : σ}
      (within : probe.expected.length ≤ maxParameters) (isOf : read.IsOf probe)
      (answered : read.answer = .ok count) (whole : read.filled.length = probe.expected.length)
      (other : read.filled.take count ≠ probe.expected) :
      Taken panel probe onward
        ⟨.ok false,
          [read.event, .noted (.mismatch panel probe.register (read.filled.take count)
            probe.expected)],
          next⟩

section

variable [Host σ]

theorem Scratch.check_taken (panel : String) (scratch : Scratch) (probe : Probe)
    (rest : List Probe) (host : σ) :
    probe.Taken panel (fun left => left.check panel rest)
      (scratch.check panel (probe :: rest) host) := by
  by_cases fits : probe.expected.length ≤ maxParameters
  · let window := scratch.window probe.expected.length fits
    rw [check, dif_pos fits]
    cases asked : Host.readInto probe.register window host with
    | mk reading next =>
      obtain ⟨answer, filled⟩ := reading
      let read : ReadCall := ⟨probe.register, window.toList, answer, filled.toList⟩
      have isOf : read.IsOf probe := ⟨rfl, Vector.length_toList⟩
      rw [Run.bind_apply, Run.read_apply, asked]
      cases answer with
      | error fault => exact .failed fits isOf rfl
      | ok count =>
        by_cases same : filled.toList.take count = probe.expected
        · obtain ⟨enough, filledWith⟩ := (take_eq_iff filled rfl).mp same
          simp only [Except.map, if_pos same]
          exact .passed ⟨fits, isOf, ⟨count, rfl, enough⟩, filledWith⟩
        · simp only [Except.map, if_neg same]
          exact .differs fits isOf rfl Vector.length_toList same
  · rw [check, dif_neg fits]
    exact .overlong (Nat.lt_of_not_le fits)

end

end DsiPanel
