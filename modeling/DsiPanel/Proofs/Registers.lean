import DsiPanel.Catalog
import DsiPanel.Proofs.History

/-!
# Register writes in context

What a register write means depends on what was written before. On a paged controller the opcode
of a standard command is a register like any other unless the right page is chosen, and a locked
controller takes nothing but the write that unlocks it; both forget this when reset goes low. A
`Context` says how such a thing is followed through the calls, and when the standard commands are
understood.

Two of the standard commands need the panel to have rested: turning the display on comes a while
after waking the panel, and sleeping a while after turning the display off. `Rested` says it of the
calls of one operation, and `Context.watch` finds it out by remembering the last command and the
time since.

Both models of the catalogue keep to this in every run (`registers_in_context`). Only two things
are evaluated for it: the plans of the two tables, gone over once each.
-/

set_option autoImplicit false

namespace DsiPanel

variable {γ : Type}

/-! ## Waiting -/

/-- The time a call waited, in microseconds. Nothing is known of a wait that failed. -/
def Call.waited : Call → Nat
  | ⟨.waitMs milliseconds, .ok ()⟩ => 1000 * milliseconds.toNat
  | ⟨.waitUs microseconds, .ok ()⟩ => microseconds.toNat
  | _ => 0

/-- The time some calls waited, in microseconds. -/
def waited : List Call → Nat
  | [] => 0
  | call :: rest => call.waited + waited rest

theorem waited_concat (calls : List Call) (call : Call) :
    waited (calls ++ [call]) = waited calls + call.waited := by
  induction calls with
  | nil => simp [waited]
  | cons first rest ih => simp [waited, ih, Nat.add_assoc]

/-- The command that has to come before a command, and how long before, in microseconds. -/
def restBefore? (opcode : UInt32) : Option (UInt32 × Nat) :=
  if opcode = Dcs.displayOn then some (Dcs.exitSleep, 120000)
  else if opcode = Dcs.enterSleep then some (Dcs.displayOff, 20000)
  else none

/-! ## Contexts -/

/-- What decides how a controller understands a write, followed through the calls. -/
structure Context (γ : Type) where
  fresh : γ
  turn : γ → Call → γ
  /-- whether the opcodes are those of the standard commands -/
  understood : γ → Bool

namespace Context

variable (context : Context γ)

/-- The context after some calls. -/
def after (calls : List Call) : γ :=
  calls.foldl context.turn context.fresh

theorem after_concat (calls : List Call) (call : Call) :
    context.after (calls ++ [call]) = context.turn (context.after calls) call := by
  simp [after]

/-- The command was accepted and understood, and since then the operation made no write and waited
    at least so long. -/
def Rested (past before : List Call) (command : UInt32) (time : Nat) : Prop :=
  ∃ start parameters urgent wait,
    before = start ++ ⟨.write command parameters urgent, .ok ()⟩ :: wait ∧
      context.understood (context.after (past ++ start)) = true ∧
      (∀ call ∈ wait, call.action.isWrite = false) ∧ time ≤ waited wait

variable {context} {past before : List Call} {command : UInt32} {time : Nat} {call : Call}

theorem Rested.of_write {parameters : List UInt8} {urgent : Bool}
    (understood : context.understood (context.after (past ++ before)) = true) :
    context.Rested past (before ++ [⟨.write command parameters urgent, .ok ()⟩]) command 0 :=
  ⟨before, parameters, urgent, [], rfl, understood, nofun, Nat.zero_le _⟩

theorem Rested.concat (rested : context.Rested past before command time)
    (silent : call.action.isWrite = false) :
    context.Rested past (before ++ [call]) command (time + call.waited) := by
  obtain ⟨start, parameters, urgent, wait, rfl, understood, quiet, enough⟩ := rested
  refine ⟨start, parameters, urgent, wait ++ [call], by simp, understood, fun other among => ?_, ?_⟩
  · rcases List.mem_append.mp among with earlier | last
    · exact quiet other earlier
    · rw [List.mem_singleton.mp last]
      exact silent
  · rw [waited_concat]
    exact Nat.add_le_add_right enough call.waited

theorem Rested.mono {shorter : Nat} (rested : context.Rested past before command time)
    (short : shorter ≤ time) : context.Rested past before command shorter := by
  obtain ⟨start, parameters, urgent, wait, split, understood, quiet, enough⟩ := rested
  exact ⟨start, parameters, urgent, wait, split, understood, quiet, Nat.le_trans short enough⟩

/-! ## Watching one operation -/

/-- What is known within an operation: the context, and the last command with the time since. -/
structure Sight (γ : Type) where
  current : γ
  last : Option (UInt32 × Nat) := none

/-- Only a command that was understood is remembered, and only until the next write. -/
def learn (context : Context γ) (sight : Sight γ) (call : Call) : Sight γ where
  current := context.turn sight.current call
  last :=
    match call with
    | ⟨.write opcode _ _, .ok ()⟩ =>
      if context.understood sight.current then some (opcode, 0) else none
    | ⟨.write .., .error _⟩ => none
    | call => sight.last.map fun (command, time) => (command, time + call.waited)

/-- Before a command that needs it, the panel must have rested. -/
def watch (context : Context γ) : Watch (Sight γ) where
  learn := context.learn
  permits sight
    | .write opcode _ _ =>
      match restBefore? opcode with
      | none => true
      | some (command, time) =>
        !context.understood sight.current ||
          sight.last.any fun last => last.1 == command && time ≤ last.2
    | _ => true

/-- What is in sight is what was done. -/
structure Sees (context : Context γ) (past before : List Call) (sight : Sight γ) : Prop where
  current : sight.current = context.after (past ++ before)
  last : ∀ {command time}, sight.last = some (command, time) →
    context.Rested past before command time

variable {sight : Sight γ}

theorem last_learn_of_silent (silent : call.action.isWrite = false) :
    (context.learn sight call).last =
      sight.last.map fun (command, time) => (command, time + call.waited) := by
  obtain ⟨action, answer⟩ := call
  cases action with
  | write => cases silent
  | reset | bias | biasPin | waitMs | waitUs => rfl

theorem Sees.learn (sees : context.Sees past before sight) (call : Call) :
    context.Sees past (before ++ [call]) (context.learn sight call) where
  current := by
    rw [← List.append_assoc, after_concat, ← sees.current]
    rfl
  last := by
    intro command time remembered
    -- A call that is no write makes the rest longer. A write begins a new one, or ends it.
    by_cases silent : call.action.isWrite = false
    · rw [last_learn_of_silent silent] at remembered
      obtain ⟨⟨remains, since⟩, known, same⟩ := Option.map_eq_some_iff.mp remembered
      cases same
      exact (sees.last known).concat silent
    · obtain ⟨action, answer⟩ := call
      cases action with
      | write opcode parameters urgent =>
        cases answer with
        | error => cases remembered
        | ok =>
          simp only [Context.learn] at remembered
          split at remembered
          · rename_i understood
            cases remembered
            rw [sees.current] at understood
            exact .of_write understood
          · cases remembered
      | reset | bias | biasPin | waitMs | waitUs => exact absurd rfl silent

/-- **Step after step, what is in sight stays what was done.** -/
theorem Sees.follow (sees : context.Sees past before sight) (calls : List Call) :
    context.Sees past (before ++ calls) (context.watch.follow sight calls) := by
  induction calls generalizing before sight with
  | nil => simpa [Watch.follow] using sees
  | cons call rest ih =>
    have onward := ih (sees.learn call)
    rwa [List.append_assoc] at onward

theorem sees_nil (past : List Call) : context.Sees past [] ⟨context.after past, none⟩ where
  current := by rw [List.append_nil]
  last := nofun

/-- What the watch permits has rested. -/
theorem Sees.rested (sees : context.Sees past before sight) {opcode : UInt32}
    {parameters : List UInt8} {urgent : Bool}
    (permitted : context.watch.permits sight (.write opcode parameters urgent) = true)
    (needs : restBefore? opcode = some (command, time))
    (understood : context.understood (context.after (past ++ before)) = true) :
    context.Rested past before command time := by
  rw [← sees.current] at understood
  simp only [watch, needs, understood, Bool.not_true, Bool.false_or] at permitted
  obtain ⟨⟨last, since⟩, known, enough⟩ := (Option.any_eq_true _ _).mp permitted
  simp only [Bool.and_eq_true, beq_iff_eq, decide_eq_true_eq] at enough
  obtain ⟨rfl, enough⟩ := enough
  exact (sees.last known).mono enough

end Context

/-! ## Rests along any operations -/

namespace Model

variable {model : Model} {context : Context γ}

/-- In every run, a command that needs it and is understood finds the panel rested. -/
def RestsInTime (model : Model) (context : Context γ) : Prop :=
  model.Always fun past before _ event => ∀ opcode parameters urgent answer command time,
    event = .acted (.write opcode parameters urgent) answer →
      restBefore? opcode = some (command, time) →
      context.understood (context.after (past ++ before)) = true →
      context.Rested past before command time

/-- It is enough that the watch clears the plans, each from what can be expected before it. -/
theorem restsInTime_of_clears {expected : Lifecycle → γ → Prop}
    (tracks : Tracks context.turn model expected)
    (cleared : ∀ {operation direction state known},
      Operation.direction? operation = some direction →
      operation.accepts state = true → expected state known →
      context.watch.clears ⟨known, none⟩ (model.plan direction) = true) :
    model.RestsInTime context := by
  intro σ _ host operations operation before event later start split opcode parameters urgent
    answer command time acted needs understood
  have permitted := tracks.always_permits context.fresh (fun _ => context.watch)
    (fun known => ⟨known, none⟩) cleared host operations operation before event later split
    _ _ acted
  have sees := (context.sees_nil (start.history operations)).follow (callsOf before)
  exact sees.rested permitted needs understood

end Model

namespace Catalog

/-! ## The paged controller -/

namespace Jd9365

/-- The page is the one that was chosen last, if it was chosen since reset went low. The standard
    commands are those of page 0. -/
def pages : Context (Option UInt8) where
  fresh := none
  turn page
    | ⟨.reset .low, .ok ()⟩ => none
    | ⟨.write opcode parameters _, .ok ()⟩ =>
      if opcode = pageRegister then parameters.head? else page
    | _ => page
  understood page := page == some 0

def Expected : Lifecycle → Option UInt8 → Prop
  | .active, page => page = some 0
  | _, _ => True

theorem powerOn_clears (page : Option UInt8) :
    pages.watch.clears ⟨page, none⟩ jd9365.powerOn.plan = true := rfl

/-- The power-on script takes reset low, so the init table never finds a page chosen. -/
theorem powerOn_leaves (page : Option UInt8) :
    jd9365.powerOn.plan.expect pages.watch.learn ⟨page, none⟩ = ⟨none, none⟩ := rfl

theorem initTable_clears :
    pages.watch.clears ⟨none, none⟩ (jd9365.initTable.plan true) = true := by
  decide +kernel

theorem up_leaves (page : Option UInt8) : (jd9365.plan .up).expect pages.turn page = some 0 := by
  have reset : jd9365.powerOn.plan.expect pages.turn page = none := rfl
  have chosen : (jd9365.initTable.plan true).expect pages.turn none = some 0 := by decide +kernel
  rw [Model.plan, Plan.expect_append, reset]
  exact chosen

theorem tracks : Tracks pages.turn jd9365 Expected where
  lost _ := trivial
  up := up_leaves
  down _ _ := trivial

theorem clears {operation : Operation} {direction : Direction} {state : Lifecycle}
    {page : Option UInt8} (moves : operation.direction? = some direction)
    (accepted : operation.accepts state = true) (expected : Expected state page) :
    pages.watch.clears ⟨page, none⟩ (jd9365.plan direction) = true := by
  cases direction with
  | up =>
    refine Watch.clears_append (powerOn_clears page) ?_
    rw [powerOn_leaves]
    exact initTable_clears
  | down =>
    rw [Operation.eq_active_of_down moves accepted] at expected
    rw [expected]
    rfl

/-- On the way down every write needs page 0. On the way up, pages are chosen. -/
def pageWatch (operation : Operation) : Watch (Option UInt8) where
  learn := pages.turn
  permits page action := operation = .suspend → action.isWrite = true → page = some 0

theorem pageWatch_clears {operation : Operation} {direction : Direction} {state : Lifecycle}
    {page : Option UInt8} (moves : operation.direction? = some direction)
    (accepted : operation.accepts state = true) (expected : Expected state page) :
    (pageWatch operation).clears page (jd9365.plan direction) = true := by
  cases operation with
  | bringUp | resume => exact Watch.clears_of_permits (fun _ _ => by simp [pageWatch]) _
  | suspend =>
    cases moves
    rw [Operation.eq_active_of_down rfl accepted] at expected
    rw [expected]
    rfl
  | checkLiveness => cases moves

/-- What is written in a suspension and what is read finds page 0, and so do the commands of page 0
    find the panel rested. -/
structure InContext : Prop where
  suspend : jd9365.Always fun past before operation event =>
    operation = .suspend → event.isWrite = true → pages.after (past ++ before) = some 0
  reads : jd9365.Always fun past before _ event =>
    event.isRead = true → pages.after (past ++ before) = some 0
  rests : jd9365.RestsInTime pages

theorem inContext : InContext where
  suspend := by
    intro σ _ host operations operation before event later start split suspends writes
    obtain ⟨action, answer, rfl, writes⟩ := Event.acted_of_isWrite writes
    have permitted := tracks.always_permits_tracked none pageWatch (fun _ => rfl) pageWatch_clears
      host operations operation before _ later split action answer rfl
    exact of_decide_eq_true permitted suspends writes
  reads := tracks.always_reads none
  rests := Model.restsInTime_of_clears tracks clears

end Jd9365

/-! ## The locked controller -/

namespace St7703

def unlocks : Action → Bool
  | .write opcode parameters _ => opcode == 0xB9 && parameters == [0xF1, 0x12, 0x83]
  | _ => false

/-- Whether the unlocking write was accepted since reset went low. There are no pages. -/
def lock : Context Bool where
  fresh := false
  turn unlocked
    | ⟨.reset .low, .ok ()⟩ => false
    | ⟨action, .ok ()⟩ => unlocked || unlocks action
    | ⟨_, .error _⟩ => unlocked
  understood _ := true

def Expected : Lifecycle → Bool → Prop
  | .active, unlocked => unlocked = true
  | _, _ => True

theorem up_leaves (unlocked : Bool) : (st7703.plan .up).expect lock.turn unlocked = true := by
  cases unlocked <;> decide +kernel

theorem tracks : Tracks lock.turn st7703 Expected where
  lost _ := trivial
  up := up_leaves
  down _ _ := trivial

/-- A write needs the registers unlocked, unless it is the one that unlocks them. -/
def lockWatch : Watch Bool where
  learn := lock.turn
  permits unlocked action := action.isWrite = true → unlocks action = true ∨ unlocked = true

theorem clears {operation : Operation} {direction : Direction} {state : Lifecycle}
    {unlocked : Bool} (moves : operation.direction? = some direction)
    (accepted : operation.accepts state = true) (expected : Expected state unlocked) :
    lock.watch.clears ⟨unlocked, none⟩ (st7703.plan direction) = true ∧
      lockWatch.clears unlocked (st7703.plan direction) = true := by
  cases direction with
  | up =>
    -- The power-on script takes reset low, so both ways it is locked again at the first write.
    cases unlocked <;> decide +kernel
  | down =>
    rw [Operation.eq_active_of_down moves accepted] at expected
    rw [expected]
    exact ⟨rfl, rfl⟩

/-- Nothing but the unlocking write goes out while the registers are locked, nothing is read, and
    the commands that need it find the panel rested. -/
structure InContext : Prop where
  writes : st7703.Always fun past before _ event => ∀ action answer,
    event = .acted action answer → action.isWrite = true →
      unlocks action = true ∨ lock.after (past ++ before) = true
  reads : st7703.Always fun past before _ event =>
    event.isRead = true → lock.after (past ++ before) = true
  rests : st7703.RestsInTime lock

theorem inContext : InContext where
  writes := by
    intro σ _ host operations operation before event later start split action answer acted writes
    have permitted := tracks.always_permits_tracked false (fun _ => lockWatch) (fun _ => rfl)
      (fun moves accepted expected => (clears moves accepted expected).2) host operations
      operation before event later split action answer acted
    exact of_decide_eq_true permitted writes
  reads := tracks.always_reads false
  rests := Model.restsInTime_of_clears tracks
    fun moves accepted expected => (clears moves accepted expected).1

end St7703

/-- **Both models keep their registers in context**, in every run and whatever fails in it. -/
theorem registers_in_context : Jd9365.InContext ∧ St7703.InContext :=
  ⟨Jd9365.inContext, St7703.inContext⟩

end Catalog

end DsiPanel
