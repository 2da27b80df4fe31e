import DsiPanel.Proofs.Custody
import DsiPanel.Proofs.PartFaults

/-!
# A board is its four parts

How far a sequence drives one part of a board depends on all four: a pin that fails keeps every
later call from the bus, and a bus that fails keeps every later wait from the timer. What does not
depend on the others is what a call does once it is made. So a board can be taken apart:

> **Each part is as its own calls left it**, in their order and with nothing else done to it
> (`parts_see_their_own_calls`).

The calls of a part are picked out of the events of a run, with the arguments that were asked for
and without the answers, and the part is then driven through them alone. That the events are a
true account of what the board went through is known (`Underwent`), and all that is left is one
call at a time.

A board can be used through the panel that holds it and past it, in any order, and it can be taken
back from one panel and given to the next. `Use` is any of that.
-/

set_option autoImplicit false

namespace DsiPanel

/-! ## Calls on one part -/

inductive BusCall where
  | write (opcode : UInt32) (parameters : List UInt8) (urgent : Bool)
  | read (register : UInt32) (offered : List UInt8)
  deriving DecidableEq

inductive SupplyCall where
  | switch (enable : Bool) (order : RailOrder) (millivolts : UInt16)
  | drivePin (level : Level)
  deriving DecidableEq

inductive TimerCall where
  | waitMs (milliseconds : UInt32)
  | waitUs (microseconds : UInt32)
  deriving DecidableEq

section

variable {β ρ γ δ : Type}

def BusCall.drive [Bus β] (bus : β) : BusCall → β
  | .write opcode parameters urgent => (Bus.write opcode parameters urgent bus).2
  | .read register offered => (Bus.read register (bufferOf offered) bus).2

def Level.drive [OutputPin ρ] (pin : ρ) (level : Level) : ρ :=
  (OutputPin.drive level pin).2

def SupplyCall.drive [BiasSupply γ] (supply : γ) : SupplyCall → γ
  | .switch enable order millivolts => (BiasSupply.switch enable order millivolts supply).2
  | .drivePin level => (BiasSupply.drivePin level supply).2

def TimerCall.drive [Timer δ] (timer : δ) : TimerCall → δ
  | .waitMs milliseconds => Timer.waitMs milliseconds timer
  | .waitUs microseconds => Timer.waitUs microseconds timer

end

/-! ## Whose call it is -/

def Event.busCall? : Event → Option BusCall
  | .acted (.write opcode parameters urgent) _ => some (.write opcode parameters urgent)
  | .read register offered _ _ => some (.read register offered)
  | _ => none

def Call.resetLevel? (call : Call) : Option Level :=
  match call.action with
  | .reset level => some level
  | _ => none

def Call.supplyCall? (call : Call) : Option SupplyCall :=
  match call.action with
  | .bias enable order millivolts => some (.switch enable order millivolts)
  | .biasPin level => some (.drivePin level)
  | _ => none

def Call.timerCall? (call : Call) : Option TimerCall :=
  match call.action with
  | .waitMs milliseconds => some (.waitMs milliseconds)
  | .waitUs microseconds => some (.waitUs microseconds)
  | _ => none

namespace Board

variable {β ρ γ δ : Type} [Bus β] [OutputPin ρ] [BiasSupply γ] [Timer δ]

/-- Each part of the board is driven through its own calls among the events, and then the parts are
    those of `last`. -/
structure DrivenBy (board : Board β ρ γ δ) (events : List Event) (last : Board β ρ γ δ) : Prop where
  bus : last.bus = (events.filterMap Event.busCall?).foldl BusCall.drive board.bus
  resetPin : last.resetPin =
    ((callsOf events).filterMap Call.resetLevel?).foldl Level.drive board.resetPin
  biasSupply : last.biasSupply =
    ((callsOf events).filterMap Call.supplyCall?).foldl SupplyCall.drive board.biasSupply
  timer : last.timer =
    ((callsOf events).filterMap Call.timerCall?).foldl TimerCall.drive board.timer

/-- What a board goes through, its parts go through apart. -/
theorem drivenBy {board last : Board β ρ γ δ} {events : List Event}
    (underwent : Underwent board events last) : board.DrivenBy events last := by
  induction underwent with
  | nothing => exact ⟨rfl, rfl, rfl, rfl⟩
  | noted _ ih => exact ⟨ih.bus, ih.resetPin, ih.biasSupply, ih.timer⟩
  | @acted board _ action _ _ ih =>
    cases action with
    | reset | bias | biasPin | waitMs | waitUs | write =>
      exact ⟨ih.bus, ih.resetPin, ih.biasSupply, ih.timer⟩
  | @read board last n register buffer later _ ih =>
    refine ⟨?_, ih.resetPin, ih.biasSupply, ih.timer⟩
    -- The buffer is written down as its bytes, and made again from them.
    have driven : BusCall.drive board.bus (.read register buffer.toList) =
        (Bus.read register buffer board.bus).2 :=
      apply_bufferOf (fun buffer => (Bus.read register buffer board.bus).2) buffer
    show last.bus =
      (later.filterMap Event.busCall?).foldl BusCall.drive (BusCall.drive board.bus _)
    rw [driven]
    exact ih.bus

/-! ## What a sequence has nothing for -/

theorem sendFrom_keeps (urgent : Bool) (index : Nat) (table : Table) :
    (table.sendFrom urgent index : Run Fault (Board β ρ γ δ) Unit).Keeps
      fun board => (board.resetPin, board.biasSupply) :=
  (Run.keeps_congruence _).sendFrom ⟨fun _ _ => trivial, fun _ _ => trivial, fun _ _ => rfl,
    fun _ _ => rfl, fun _ _ _ _ => rfl⟩ urgent index table

theorem play_keeps (script : Script) :
    (script.play : Run Fault (Board β ρ γ δ) Unit).Keeps Board.bus := by
  refine (Run.keeps_congruence Board.bus).play (List.forall₂_same.mpr fun step _ => ⟨trivial, ?_⟩)
  intro board
  cases step <;> rfl

/-- Where only reads are made, only the bus is called. -/
theorem DrivenBy.of_callsOf_eq_nil {board last : Board β ρ γ δ} {events : List Event}
    (driven : board.DrivenBy events last) (uncalled : callsOf events = []) :
    last.resetPin = board.resetPin ∧ last.biasSupply = board.biasSupply ∧
      last.timer = board.timer := by
  have resetPin := driven.resetPin
  have biasSupply := driven.biasSupply
  have timer := driven.timer
  rw [uncalled] at resetPin biasSupply timer
  exact ⟨resetPin, biasSupply, timer⟩

/-- A board reads a byte as any host can: into a cleared buffer for just that byte. -/
def readByte (register : UInt32) : Run Fault (Board β ρ γ δ) UInt8 := fun board =>
  ⟨(Host.readByte register board).1,
    (Run.read register (Vector.replicate 1 0) board).events,
    (Host.readByte register board).2⟩

theorem readByte_recounts (register : UInt32) :
    (readByte register : Run Fault (Board β ρ γ δ) UInt8).Recounts :=
  fun board => Run.Recounts.read register (Vector.replicate 1 0) board

end Board

/-! ## Using a board -/

namespace Panel

/-- One way to use the board that a panel holds. -/
inductive Use where
  | perform (operation : Operation)
  | send (table : Table) (urgent : Bool)
  | play (script : Script)
  | act (action : Action)
  | readInto {n : Nat} (register : UInt32) (buffer : Vector UInt8 n)
  | readByte (register : UInt32)
  /-- the board is taken back, and given to a new panel of this model -/
  | rewrap (model : Model)

section

variable {σ α : Type}

/-- Run something on the host that is held. The panel does not notice. -/
def runPast (run : Run Fault σ α) (panel : Panel σ) : List Event × Panel σ :=
  match panel.host with
  | none => ([], panel)
  | some host => ((run host).events, { panel with host := some (run host).state })

theorem runPast_tended [Host σ] {run : Run Fault σ α} (recounts : run.Recounts)
    (panel : Panel σ) : Tended panel.host (runPast run panel).1 (runPast run panel).2.host := by
  unfold runPast
  cases held : panel.host with
  | none =>
    rw [held]
    exact .refl none
  | some host => exact .held (recounts host)

end

variable {β ρ γ δ : Type} [Bus β] [OutputPin ρ] [BiasSupply γ] [Timer δ]

/-- The events of a use, and the panel after it. -/
def Use.serve (panel : Panel (Board β ρ γ δ)) : Use → List Event × Panel (Board β ρ γ δ)
  | .perform operation =>
    let report := Panel.perform operation panel
    (report.events, report.state)
  | .send table urgent => panel.runPast (table.send urgent)
  | .play script => panel.runPast script.play
  | .act action => panel.runPast (Run.act action)
  | .readInto register buffer => panel.runPast (Run.read register buffer)
  | .readByte register => panel.runPast (Board.readByte register)
  | .rewrap model => ([], { model, host := panel.host })

def useAll (panel : Panel (Board β ρ γ δ)) : List Use → List Event × Panel (Board β ρ γ δ)
  | [] => ([], panel)
  | use :: rest =>
    let (events, next) := use.serve panel
    let (later, last) := useAll next rest
    (events ++ later, last)

theorem Use.serve_tended (panel : Panel (Board β ρ γ δ)) (use : Use) :
    Tended panel.host (use.serve panel).1 (use.serve panel).2.host := by
  cases use with
  | perform operation => exact (ended_perform panel operation).tended
  | send table urgent => exact panel.runPast_tended (table.send_recounts urgent)
  | play script => exact panel.runPast_tended script.play_recounts
  | act action => exact panel.runPast_tended (.act action)
  | readInto register buffer => exact panel.runPast_tended (.read register buffer)
  | readByte register => exact panel.runPast_tended (Board.readByte_recounts register)
  | rewrap model => exact .refl panel.host

theorem useAll_tended (panel : Panel (Board β ρ γ δ)) (uses : List Use) :
    Tended panel.host (panel.useAll uses).1 (panel.useAll uses).2.host := by
  induction uses generalizing panel with
  | nil => exact .refl panel.host
  | cons use rest ih => exact (use.serve_tended panel).append (ih (use.serve panel).2)

theorem exists_drivenBy_of_tended {board : Board β ρ γ δ} {events : List Event}
    {after : Option (Board β ρ γ δ)} (tended : Tended (some board) events after) :
    ∃ last, after = some last ∧ board.DrivenBy events last := by
  cases tended with
  | held underwent => exact ⟨_, rfl, Board.drivenBy underwent⟩

/-- A check of any panel leaves three parts of the board alone. -/
theorem checkLiveness_keeps (model : Model) (state : Lifecycle) (board : Board β ρ γ δ) :
    ∃ last, (checkLiveness { model, host := some board, state }).state.host = some last ∧
      last.resetPin = board.resetPin ∧ last.biasSupply = board.biasSupply ∧
      last.timer = board.timer := by
  have ended := ended_perform { model, host := some board, state } .checkLiveness
  have uncalled := (ended.of_not_runsSequence (by simp [RunsSequence, Operation.direction?])).1
  obtain ⟨last, held, driven⟩ := exists_drivenBy_of_tended ended.tended
  rw [perform, Run.map_apply] at held
  exact ⟨last, held, driven.of_callsOf_eq_nil uncalled⟩

/-- **Each part of a board sees its own calls and no others.** The first three parts say what a
    sequence has no calls for. The fourth is about a board in any use, and the last about all boards
    that come to one panel, each from when it was handed over until it went. -/
theorem parts_see_their_own_calls :
    (∀ (table : Table) (urgent : Bool) (board : Board β ρ γ δ),
      (table.send urgent board).state.resetPin = board.resetPin ∧
        (table.send urgent board).state.biasSupply = board.biasSupply) ∧
      (∀ (script : Script) (board : Board β ρ γ δ), (script.play board).state.bus = board.bus) ∧
      (∀ (model : Model) (state : Lifecycle) (board : Board β ρ γ δ),
        ∃ last, (checkLiveness { model, host := some board, state }).state.host = some last ∧
          last.resetPin = board.resetPin ∧ last.biasSupply = board.biasSupply ∧
          last.timer = board.timer) ∧
      (∀ (model : Model) (state : Lifecycle) (board : Board β ρ γ δ) (uses : List Use),
        let used := useAll { model, host := some board, state } uses
        ∃ last, used.2.host = some last ∧ board.DrivenBy used.1 last) ∧
      ∀ (model : Model) (start : Option (Board β ρ γ δ)) (errands : List (Errand (Board β ρ γ δ))),
        ∀ tenure ∈ tenures { model, host := start } errands,
          tenure.given.DrivenBy tenure.calls tenure.back := by
  refine ⟨fun table urgent board => ?_, fun script board => Board.play_keeps script board,
    checkLiveness_keeps, fun model state board uses => ?_,
    fun model start errands tenure among => ?_⟩
  · exact Prod.mk.inj (Board.sendFrom_keeps urgent 0 table board)
  · exact exists_drivenBy_of_tended (useAll_tended { model, host := some board, state } uses)
  · have balanced : Balanced start [] { model, host := start } errands :=
      (Stays.start start).balanced errands
    exact Board.drivenBy (balanced.driven tenure among)

end Panel

end DsiPanel
