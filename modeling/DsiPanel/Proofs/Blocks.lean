import Mathlib.Data.List.Chain
import DsiPanel.Proofs.Ending

/-!
# The calls of a whole session, block by block

Whatever is asked of a panel, in whatever order and with whatever failures, its host only ever
sees whole stretches of calls: one **block** for each operation that was accepted, had a host and
has a sequence. Nothing else makes a call that is not a read.

Three facts about the blocks of a session make up `calls_form_blocks`.

* Their calls, one after the other, are all the calls of the session.
* Each goes through the plan of its operation and is complete, or stops right at the first demand
  that was not met; and the operation returned which.
* Their order is that of the lifecycle: the first brings the panel up, a suspension only stands
  directly after a complete way up, and a resumption only directly after a complete way down.

The last one is an invariant of the session, and it needs no history: the state of the panel is
the state that the last block left.
-/

set_option autoImplicit false

namespace DsiPanel

variable {σ : Type}

/-! ## Blocks -/

/-- What an operation did to its host, and what it returned. -/
structure Block where
  operation : Operation
  calls : List Call
  outcome : Except Panel.Error Unit

namespace Block

def IsComplete (block : Block) : Prop :=
  block.outcome = .ok ()

/-- The block carries out the plan of its operation, as far as the host let it, and the operation
    returned how that ended. -/
def Realizes (block : Block) (model : Model) : Prop :=
  ∃ direction ending, block.operation.direction? = some direction ∧
    Carried (model.plan direction) block.calls ending ∧
    block.outcome = ending.mapError .stopped

/-- The first block may stand directly before the second. -/
def MayPrecede (earlier later : Block) : Prop :=
  match later.operation with
  | .bringUp => ¬ (earlier.operation = .suspend ∧ earlier.IsComplete)
  | .suspend => earlier.operation.direction? = some .up ∧ earlier.IsComplete
  | .resume => earlier.operation = .suspend ∧ earlier.IsComplete
  | .checkLiveness => False

/-- The state in which a block leaves the panel. -/
def leaves (block : Block) : Lifecycle :=
  match block.operation.direction?, block.outcome with
  | some direction, .ok () => direction.target
  | _, _ => .uninitialized

theorem mayPrecede_of_accepts {earlier later : Block}
    (moves : later.operation.direction?.isSome = true)
    (accepted : later.operation.accepts earlier.leaves = true) : earlier.MayPrecede later := by
  obtain ⟨operation, _, outcome⟩ := earlier
  obtain ⟨next, _, _⟩ := later
  unfold MayPrecede IsComplete
  cases next with
  | bringUp =>
    rintro ⟨rfl, rfl⟩
    cases accepted
  | suspend =>
    cases outcome with
    | error => cases operation <;> cases accepted
    | ok =>
      cases operation with
      | bringUp | resume => exact ⟨rfl, rfl⟩
      | suspend | checkLiveness => cases accepted
  | resume =>
    cases outcome with
    | error => cases operation <;> cases accepted
    | ok =>
      cases operation with
      | suspend => exact ⟨rfl, rfl⟩
      | bringUp | resume | checkLiveness => cases accepted
  | checkLiveness => cases moves

end Block

/-! ## The blocks of a session -/

namespace Panel

variable [Host σ]

/-- The block of a request, if it is one for an operation that runs its sequence. -/
def block? (panel : Panel σ) : Request σ → Option Block
  | .perform operation =>
    if panel.RunsSequence operation then
      let report := perform operation panel
      some ⟨operation, report.calls, report.outcome.map fun _ => ()⟩
    else none
  | .configure _ => none
  | .adjust _ => none

/-- The blocks of a session, in order. -/
def blocks (panel : Panel σ) : List (Request σ) → List Block
  | [] => []
  | request :: rest =>
    (panel.block? request).toList ++ blocks (serve request panel).state rest

@[simp] theorem blocks_nil (panel : Panel σ) : panel.blocks [] = [] := rfl

theorem blocks_cons (panel : Panel σ) (request : Request σ) (rest : List (Request σ)) :
    panel.blocks (request :: rest) =
      (panel.block? request).toList ++ (serve request panel).state.blocks rest := rfl

/-- A request without a block makes no call and leaves the state alone. -/
theorem serve_of_block?_eq_none {panel : Panel σ} {request : Request σ}
    (still : panel.block? request = none) :
    (serve request panel).calls = [] ∧ (serve request panel).state.state = panel.state := by
  cases request with
  | configure | adjust => exact ⟨rfl, rfl⟩
  | perform operation =>
    refine (ended_perform panel operation).of_not_runsSequence fun runs => ?_
    simp [block?, runs] at still

/-- **A request with a block makes the calls of the block**, which carry out the plan of an
    operation that was accepted, and leaves the panel as the block says. -/
theorem serve_of_block?_eq_some {panel : Panel σ} {request : Request σ} {block : Block}
    (moved : panel.block? request = some block) :
    (serve request panel).calls = block.calls ∧
      (serve request panel).state.state = block.leaves ∧
      block.operation.direction?.isSome = true ∧
      block.operation.accepts panel.state = true ∧ block.Realizes panel.model := by
  cases request with
  | configure | adjust => cases moved
  | perform operation =>
    simp only [block?, Option.ite_none_right_eq_some] at moved
    obtain ⟨runs, same⟩ := moved
    cases same
    have ended := ended_perform panel operation
    obtain ⟨direction, ending, moves, carried, outcome⟩ := ended.of_runsSequence runs
    rw [serve_perform]
    refine ⟨rfl, ?_, runs.1, runs.2.1, direction, ending, moves, carried, ?_⟩
    · cases ending with
      | ok =>
        have succeeded : (perform operation panel).outcome = .ok .done := outcome
        have reached := (ended.of_ok succeeded).trans (Operation.target_of_direction? moves _)
        simpa [Block.leaves, moves, succeeded, Except.map] using reached
      | error fault =>
        have failed : (perform operation panel).outcome = .error (.stopped fault) := outcome
        have lost := (ended.of_stopped failed (by simp [moves])).1
        simpa [Block.leaves, moves, failed, Except.map] using lost
    · rw [outcome]
      cases ending <;> rfl

theorem serve_model (panel : Panel σ) (request : Request σ) :
    (serve request panel).state.model = panel.model := by
  cases request with
  | configure | adjust => rfl
  | perform operation => exact (ended_perform panel operation).model

/-- Each block is that of an operation accepted in the state the one before it left. -/
theorem blocks_isChain (panel : Panel σ) (requests : List (Request σ)) :
    (∀ first ∈ (panel.blocks requests).head?, first.operation.direction?.isSome = true ∧
        first.operation.accepts panel.state = true) ∧
      (panel.blocks requests).IsChain Block.MayPrecede := by
  induction requests generalizing panel with
  | nil => simp
  | cons request rest ih =>
    obtain ⟨starts, chain⟩ := ih (serve request panel).state
    rw [blocks_cons]
    cases moved : panel.block? request with
    | none =>
      -- The state is still the one the last block left, so the chain goes on from there.
      rw [(serve_of_block?_eq_none moved).2] at starts
      exact ⟨starts, chain⟩
    | some block =>
      obtain ⟨-, left, moves, accepted, -⟩ := serve_of_block?_eq_some moved
      rw [left] at starts
      refine ⟨?_, List.isChain_cons.mpr ⟨fun next first => ?_, chain⟩⟩
      · rintro first ⟨⟩
        exact ⟨moves, accepted⟩
      · obtain ⟨movesNext, acceptedNext⟩ := starts next first
        exact Block.mayPrecede_of_accepts movesNext acceptedNext

theorem blocks_realize {panel : Panel σ} {requests : List (Request σ)} {block : Block}
    (found : block ∈ panel.blocks requests) : block.Realizes panel.model := by
  induction requests generalizing panel with
  | nil => cases found
  | cons request rest ih =>
    rcases List.mem_append.mp found with here | later
    · obtain ⟨-, -, -, -, realizes⟩ :=
        serve_of_block?_eq_some (Option.mem_toList.mp here)
      exact realizes
    · rw [← serve_model panel request]
      exact ih later

theorem calls_serveAll (panel : Panel σ) (requests : List (Request σ)) :
    (serveAll panel requests).1.flatMap Report.calls =
      (panel.blocks requests).flatMap Block.calls := by
  induction requests generalizing panel with
  | nil => rfl
  | cons request rest ih =>
    rw [serveAll_cons, blocks_cons, List.flatMap_cons, List.flatMap_append, ih]
    congr 1
    cases moved : panel.block? request with
    | none => exact (serve_of_block?_eq_none moved).1
    | some block => simpa using (serve_of_block?_eq_some moved).1

/-- **The calls of a session form blocks.** A panel starts with a host or without one, and with
    nothing known about it; any requests may follow, and any of them may fail. -/
theorem calls_form_blocks (model : Model) (host : Option σ) (requests : List (Request σ)) :
    let panel : Panel σ := { model, host }
    (serveAll panel requests).1.flatMap Report.calls =
        (panel.blocks requests).flatMap Block.calls ∧
      (∀ block ∈ panel.blocks requests, block.Realizes model) ∧
      (∀ first ∈ (panel.blocks requests).head?, first.operation = .bringUp) ∧
      (panel.blocks requests).IsChain Block.MayPrecede := by
  intro panel
  obtain ⟨starts, chain⟩ := panel.blocks_isChain requests
  refine ⟨calls_serveAll panel requests, fun block found => blocks_realize found,
    fun first here => ?_, chain⟩
  obtain ⟨moves, accepted⟩ := starts first here
  cases asked : first.operation with
  | bringUp => rfl
  | suspend | resume =>
    rw [asked] at accepted
    cases accepted
  | checkLiveness =>
    rw [asked] at moves
    cases moves

end Panel

end DsiPanel
