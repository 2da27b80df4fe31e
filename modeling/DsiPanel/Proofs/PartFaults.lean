import DsiPanel.Host.Board
import DsiPanel.Proofs.FaultOrigin
import DsiPanel.Proofs.Recovery

/-!
# Which part of a board failed

A board answers for its four parts, and the parts only say whether they did what they were asked.
What a panel returns is three translations away from that: the board names a fault for the part,
a sequence stops at it, and an operation reports it. Two of the five faults have a second cause
that no part is to blame for.

`partCalls` goes over the events of an operation once more with the board as it was before, and
keeps what the parts said and nothing of what the board made of it. `Blames` is the table of what
each call can be blamed for.

> **The fault that is reported tells the part, both ways** (`faults_tell_the_part`): a pin, supply
> or bus fault is reported just if the last call was on that part and failed, and the two limits
> just if the bus overran the buffer or the walk stopped where it had to.
-/

set_option autoImplicit false

namespace DsiPanel

/-! ## Calls on the parts -/

/-- A call on one part of a board, with what the part itself said to it. -/
inductive PartCall where
  | resetPin (level : Level) (accepted : Bool)
  | railSwitch (enable : Bool) (order : RailOrder) (millivolts : UInt16) (accepted : Bool)
  | railPin (level : Level) (accepted : Bool)
  | busWrite (opcode : UInt32) (parameters : List UInt8) (urgent accepted : Bool)
  /-- the bus was given a buffer with room for so many bytes, and reported a count or failed -/
  | busRead (register : UInt32) (room : Nat) (reported : Option Nat)
  | timerMs (milliseconds : UInt32)
  | timerUs (microseconds : UInt32)
  deriving DecidableEq

namespace PartCall

/-- The part did what it was asked, and a read was no longer than there was room for. -/
def isGood : PartCall → Bool
  | .resetPin _ accepted | .railSwitch _ _ _ accepted | .railPin _ accepted
  | .busWrite _ _ _ accepted => accepted
  | .busRead _ room reported => reported.any (· ≤ room)
  | .timerMs _ | .timerUs _ => true

/-- What a call is to blame for. -/
inductive Blames : PartCall → Fault → Prop where
  | resetPin {level : Level} : Blames (.resetPin level false) .gpio
  | railSwitch {enable : Bool} {order : RailOrder} {millivolts : UInt16} :
      Blames (.railSwitch enable order millivolts false) .bias
  | railPin {level : Level} : Blames (.railPin level false) .bias
  | busWrite {opcode : UInt32} {parameters : List UInt8} {urgent : Bool} :
      Blames (.busWrite opcode parameters urgent false) .transport
  | busRead {register : UInt32} {room : Nat} : Blames (.busRead register room none) .transport
  | overrun {register : UInt32} {room count : Nat} (beyond : room < count) :
      Blames (.busRead register room (some count)) .bufferTooSmall

/-- What the board makes of the call. -/
def reply : PartCall → Except Fault Unit
  | .resetPin _ accepted => Board.accept .gpio accepted
  | .railSwitch _ _ _ accepted | .railPin _ accepted => Board.accept .bias accepted
  | .busWrite _ _ _ accepted => Board.accept .transport accepted
  | .busRead _ room reported =>
    match reported with
    | none => .error .transport
    | some count => if room < count then .error .bufferTooSmall else .ok ()
  | .timerMs _ | .timerUs _ => .ok ()

theorem reply_eq_ok_iff {call : PartCall} : call.reply = .ok () ↔ call.isGood = true := by
  cases call with
  | resetPin _ accepted | railSwitch _ _ _ accepted | railPin _ accepted
  | busWrite _ _ _ accepted =>
    cases accepted <;> simp [reply, isGood, Board.accept]
  | busRead register room reported =>
    cases reported with
    | none => simp [reply, isGood]
    | some count =>
      by_cases beyond : room < count
      · simp [reply, isGood, beyond]
      · simp [reply, isGood, beyond, Nat.le_of_not_lt beyond]
  | timerMs | timerUs => simp [reply, isGood]

theorem reply_eq_error_iff {call : PartCall} {fault : Fault} :
    call.reply = .error fault ↔ call.Blames fault := by
  constructor
  · intro failed
    cases call with
    | resetPin _ accepted | railSwitch _ _ _ accepted | railPin _ accepted
    | busWrite _ _ _ accepted =>
      cases accepted with
      | true => cases failed
      | false =>
        cases failed
        constructor
    | busRead register room reported =>
      cases reported with
      | none =>
        cases failed
        exact .busRead
      | some count =>
        rw [reply] at failed
        split at failed
        · rename_i beyond
          cases failed
          exact .overrun beyond
        · cases failed
    | timerMs | timerUs => cases failed
  · intro blames
    cases blames with
    | resetPin | railSwitch | railPin | busWrite | busRead => rfl
    | overrun beyond => simp [reply, beyond]

end PartCall

/-! ## The calls that some events stand for -/

/-- A buffer that holds the bytes. -/
def bufferOf (bytes : List UInt8) : Vector UInt8 bytes.length :=
  ⟨bytes.toArray, List.size_toArray⟩

/-- A buffer is what it holds, whatever is then done with it. -/
theorem apply_bufferOf {α : Type} {n : Nat} (use : {n : Nat} → Vector UInt8 n → α)
    (buffer : Vector UInt8 n) : use (bufferOf buffer.toList) = use buffer := by
  obtain ⟨⟨bytes⟩, rfl⟩ := buffer
  rfl

namespace Board

variable {β ρ γ δ : Type} [Bus β] [OutputPin ρ] [BiasSupply γ] [Timer δ]

/-- The call that an action is for the parts of the board. -/
def partCall (board : Board β ρ γ δ) : Action → PartCall
  | .reset level => .resetPin level (OutputPin.drive level board.resetPin).1
  | .bias enable order millivolts =>
    .railSwitch enable order millivolts
      (BiasSupply.switch enable order millivolts board.biasSupply).1
  | .biasPin level => .railPin level (BiasSupply.drivePin level board.biasSupply).1
  | .waitMs milliseconds => .timerMs milliseconds
  | .waitUs microseconds => .timerUs microseconds
  | .write opcode parameters urgent =>
    .busWrite opcode parameters urgent (Bus.write opcode parameters urgent board.bus).1

/-- The calls on the parts that the events stand for, from the board as it was before them. The
    answers among the events are those of the board, and are not looked at. -/
def partCalls : Board β ρ γ δ → List Event → List PartCall
  | _, [] => []
  | board, .noted _ :: rest => board.partCalls rest
  | board, .acted action _ :: rest => board.partCall action :: (board.act action).2.partCalls rest
  | board, .read register offered _ _ :: rest =>
    .busRead register offered.length (Bus.read register (bufferOf offered) board.bus).1.1 ::
      (board.readInto register (bufferOf offered)).2.partCalls rest

theorem reply_partCall (board : Board β ρ γ δ) (action : Action) :
    (board.partCall action).reply = (Host.act action board).1 := by
  cases action <;> rfl

theorem reply_busRead (board : Board β ρ γ δ) {n : Nat} (register : UInt32)
    (buffer : Vector UInt8 n) :
    (PartCall.busRead register n (Bus.read register buffer board.bus).1.1).reply =
      (Host.readInto register buffer board).1.count.map fun _ => () := by
  have judged : (Host.readInto register buffer board).1 =
      judge (Bus.read register buffer board.bus).1.1 (Bus.read register buffer board.bus).1.2 := rfl
  rw [judged]
  cases (Bus.read register buffer board.bus).1.1 with
  | none => rfl
  | some count =>
    by_cases beyond : n < count
    · simp [PartCall.reply, judge, beyond, Except.map]
    · simp [PartCall.reply, judge, beyond, Except.map]

/-- **What the board answered is what its parts said, translated.** -/
theorem replies_eq {board last : Board β ρ γ δ} {events : List Event}
    (underwent : Underwent board events last) :
    repliesOf events = (board.partCalls events).map PartCall.reply := by
  induction underwent with
  | nothing => rfl
  | noted _ ih => exact ih
  | @acted board _ action _ _ ih =>
    rw [repliesOf_acted, ih, partCalls, List.map_cons, reply_partCall]
    rfl
  | @read board _ n register buffer later _ ih =>
    -- The buffer is written down as its bytes, and made again from them.
    have call := apply_bufferOf
      (fun {n} buffer => PartCall.busRead register n (Bus.read register buffer board.bus).1.1)
      buffer
    have next := apply_bufferOf (fun buffer => (board.readInto register buffer).2) buffer
    rw [repliesOf_read, ih, partCalls, List.map_cons, call, next, reply_busRead]
    rfl

end Board

/-! ## From the answers of the board to the calls on its parts -/

section

variable {calls : List PartCall} {earlier : List (Except Fault Unit)} {fault : Fault}

/-- The last call is there, and is to blame for the fault. -/
def EndsBlaming (calls : List PartCall) (fault : Fault) : Prop :=
  ∃ call, calls.getLast? = some call ∧ call.Blames fault

theorem isGood_of_replies (fine : ∀ reply ∈ calls.map PartCall.reply, reply = .ok ()) :
    ∀ call ∈ calls, call.isGood = true := by
  intro call among
  exact PartCall.reply_eq_ok_iff.mp (fine _ (List.mem_map_of_mem among))

theorem not_endsBlaming_of_isGood (good : ∀ call ∈ calls, call.isGood = true) :
    ¬ EndsBlaming calls fault := by
  rintro ⟨call, last, blames⟩
  have fine := PartCall.reply_eq_ok_iff.mpr (good call (List.mem_of_getLast? last))
  rw [PartCall.reply_eq_error_iff.mpr blames] at fine
  cases fine

theorem EndsBlaming.unique {other : Fault} (one : EndsBlaming calls fault)
    (two : EndsBlaming calls other) : fault = other := by
  obtain ⟨call, last, blames⟩ := one
  obtain ⟨_, same, blamesOther⟩ := two
  rw [last] at same
  cases same
  have reply := PartCall.reply_eq_error_iff.mpr blames
  rw [PartCall.reply_eq_error_iff.mpr blamesOther] at reply
  cases reply
  rfl

/-- No call can be to blame for a write that is too long: it never gets that far. -/
theorem not_endsBlaming_tooManyParameters : ¬ EndsBlaming calls .tooManyParameters := by
  rintro ⟨call, -, blames⟩
  cases blames

theorem endsBlaming_of_replies (last : calls.map PartCall.reply = earlier ++ [.error fault])
    (fine : ∀ reply ∈ earlier, reply = .ok ()) :
    EndsBlaming calls fault ∧
      ∀ before call after, calls = before ++ call :: after → call.isGood = false → after = [] := by
  obtain ⟨first, rest, rfl, rfl, tail⟩ := List.map_eq_append_iff.mp last
  obtain ⟨final, rfl, reply⟩ := List.map_eq_singleton_iff.mp tail
  refine ⟨⟨final, List.getLast?_concat, PartCall.reply_eq_error_iff.mp reply⟩, ?_⟩
  intro before call after split bad
  have free : call ∉ first := by
    intro among
    rw [isGood_of_replies fine call among] at bad
    cases bad
  -- What is not good stands behind what is, and there is room for one call only.
  obtain ⟨more, -, tail⟩ := split_after split free
  cases more with
  | nil =>
    cases tail
    rfl
  | cons => simp at tail

end

namespace Panel

/-- What a fault tells of the parts, for each fault and both ways. -/
structure Attributed {σ : Type} (model : Model) (operation : Operation)
    (report : Report Error (Panel σ) (Answer σ)) (calls : List PartCall) (fault : Fault) :
    Prop where
  gpio : fault = .gpio ↔ EndsBlaming calls .gpio
  bias : fault = .bias ↔ EndsBlaming calls .bias
  transport : fault = .transport ↔ EndsBlaming calls .transport
  bufferTooSmall : fault = .bufferTooSmall ↔ EndsBlaming calls .bufferTooSmall ∨
    ((∀ call ∈ calls, call.isGood = true) ∧ operation = .checkLiveness ∧
      HaltsAtProbe model.datasheet.link.probes report.reads)
  tooManyParameters : fault = .tooManyParameters ↔ (∀ call ∈ calls, call.isGood = true) ∧
    ∃ direction, operation.direction? = some direction ∧
      model.HaltsAtWrite direction (report.calls.map Call.action)

/-- **What a report tells of the calls on the parts.** -/
structure TellsParts {σ : Type} (model : Model) (operation : Operation)
    (report : Report Error (Panel σ) (Answer σ)) (calls : List PartCall) : Prop where
  stopped : ∀ fault, report.outcome = .error (.stopped fault) →
    Attributed model operation report calls fault
  /-- no part is called once one did not do what it was asked -/
  last : ∀ before call after, calls = before ++ call :: after → call.isGood = false → after = []
  /-- an operation that succeeded made no call that failed -/
  succeeded : ∀ answer, report.outcome = .ok answer → ∀ call ∈ calls, call.isGood = true

section

variable {σ : Type} {model : Model} {operation : Operation}
  {report : Report Error (Panel σ) (Answer σ)} {calls : List PartCall} {fault : Fault}

/-- The fault is the one that the last call is to blame for. -/
theorem attributed_of_endsBlaming (blamed : EndsBlaming calls fault) :
    Attributed model operation report calls fault := by
  have told (other : Fault) : fault = other ↔ EndsBlaming calls other :=
    ⟨fun same => same ▸ blamed, fun also => blamed.unique also⟩
  have bad : ¬ ∀ call ∈ calls, call.isGood = true := fun good =>
    not_endsBlaming_of_isGood good blamed
  refine ⟨told .gpio, told .bias, told .transport, ?_, ?_⟩
  · rw [told .bufferTooSmall]
    exact (or_iff_left fun other => bad other.1).symm
  · constructor
    · rintro rfl
      exact absurd blamed not_endsBlaming_tooManyParameters
    · intro other
      exact absurd other.1 bad

/-- No call is to blame, so the fault is one of the two limits, and then it is told by where the
    operation came to a halt. -/
theorem attributed_of_isGood (good : ∀ call ∈ calls, call.isGood = true)
    (limit : fault = .bufferTooSmall ∨ fault = .tooManyParameters)
    (small : fault = .bufferTooSmall ↔ operation = .checkLiveness ∧
      HaltsAtProbe model.datasheet.link.probes report.reads)
    (long : fault = .tooManyParameters ↔ ∃ direction, operation.direction? = some direction ∧
      model.HaltsAtWrite direction (report.calls.map Call.action)) :
    Attributed model operation report calls fault := by
  have unblamed (other : Fault) : ¬ EndsBlaming calls other := not_endsBlaming_of_isGood good
  have told (other : Fault) (unlike : other ≠ .bufferTooSmall ∧ other ≠ .tooManyParameters) :
      fault = other ↔ EndsBlaming calls other := by
    refine iff_of_false ?_ (unblamed other)
    rintro rfl
    rcases limit with same | same
    · exact unlike.1 same
    · exact unlike.2 same
  refine ⟨told _ (by decide), told _ (by decide), told _ (by decide), ?_, ?_⟩
  · rw [small, or_iff_right (unblamed _), and_iff_right good]
  · rw [long, and_iff_right good]

theorem attributed_of_origin (origin : Origin model operation report fault)
    (replies : report.replies = calls.map PartCall.reply) :
    Attributed model operation report calls fault := by
  cases origin with
  | host earlier last fine =>
    exact attributed_of_endsBlaming (endsBlaming_of_replies (replies.symm.trans last) fine).1
  | write direction same moves fine halts =>
    rw [replies] at fine
    subst same
    have walks : operation ≠ .checkLiveness := by rintro rfl; cases moves
    exact attributed_of_isGood (isGood_of_replies fine) (.inr rfl) (by simp [walks])
      (iff_of_true rfl ⟨direction, moves, halts⟩)
  | probe same checks fine halts =>
    rw [replies] at fine
    subst same checks
    exact attributed_of_isGood (isGood_of_replies fine) (.inl rfl)
      (iff_of_true rfl ⟨rfl, halts⟩) (by simp [Operation.direction?])

variable [Host σ] {panel : Panel σ}

/-- All that is used of the board is that its answers are what its parts said. -/
theorem Ended.tellsParts (ended : Ended panel operation report)
    (replies : report.replies = calls.map PartCall.reply) :
    TellsParts panel.model operation report calls := by
  have succeeded : ∀ answer, report.outcome = .ok answer → ∀ call ∈ calls, call.isGood = true := by
    intro answer answered
    have fine := ended.accepted_of_ok answered
    rw [replies] at fine
    exact isGood_of_replies fine
  refine ⟨fun fault failed => attributed_of_origin (ended.origin failed) replies, ?_, succeeded⟩
  intro before call after split bad
  have made : call ∈ calls := by rw [split]; simp
  have bad' : ¬ ∀ reply ∈ report.replies, reply = .ok () := by
    intro fine
    rw [replies] at fine
    rw [isGood_of_replies fine call made] at bad
    cases bad
  cases outcome : report.outcome with
  | ok answer => exact absurd (ended.accepted_of_ok outcome) bad'
  | error error =>
    cases error with
    | stopped fault =>
      cases ended.origin outcome with
      | host earlier last fine =>
        exact (endsBlaming_of_replies (replies.symm.trans last) fine).2 before call after split bad
      | write _ _ _ fine | probe _ _ fine => exact absurd fine bad'
    | notConfigured | invalidTransition =>
      -- Nothing was done, so there is no call to speak of.
      obtain ⟨-, noted, -⟩ := ended.of_not_stopped outcome nofun
      have silent : report.replies = [] := repliesOf_eq_nil_of_noted noted
      rw [silent] at bad'
      exact absurd nofun bad'

end

theorem performAll_isSome_host {σ : Type} [Host σ] (panel : Panel σ) (operations : List Operation) :
    (panel.performAll operations).2.host.isSome = panel.host.isSome := by
  induction operations generalizing panel with
  | nil => rfl
  | cons operation rest ih =>
    rw [performAll_cons, ih, (ended_perform panel operation).isSome_host]

/-- **The fault tells the part.** Whatever the parts of a board are and whatever was done before,
    the report of an operation agrees with what the parts say of the calls they had. -/
theorem faults_tell_the_part {β ρ γ δ : Type} [Bus β] [OutputPin ρ] [BiasSupply γ] [Timer δ]
    (model : Model) (board : Board β ρ γ δ) (operations : List Operation)
    (operation : Operation) :
    let panel := ((Panel.withHost model board).performAll operations).2
    let report := Panel.perform operation panel
    ∃ held last, panel.host = some held ∧ report.state.host = some last ∧
      Underwent held report.events last ∧
      TellsParts model operation report (held.partCalls report.events) := by
  intro panel report
  have ended : Ended panel operation report := ended_perform panel operation
  have same : panel.model = model := performAll_model (Panel.withHost model board) operations
  have holds : panel.host.isSome = true :=
    performAll_isSome_host (Panel.withHost model board) operations
  obtain ⟨held, here⟩ := Option.isSome_iff_exists.mp holds
  have tended := ended.tended
  rw [here] at tended
  generalize report.state.host = after at tended
  cases tended with
  | @held _ last _ underwent =>
    have tells := ended.tellsParts (Board.replies_eq underwent)
    rw [same] at tells
    exact ⟨held, last, here, rfl, underwent, tells⟩

end Panel

end DsiPanel
