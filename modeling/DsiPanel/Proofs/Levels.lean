import DsiPanel.Catalog
import DsiPanel.Proofs.History

/-!
# The levels of the reset line and of the bias rails

A panel can be damaged by its supply: commands on the link need the rails on and reset released,
and the rails may only go off while reset is held. None of that is checked anywhere. It rests on
the order of the steps in the power scripts, and on the scripts being on the right side of the
tables.

`Wired.tracksLevels` says what the scripts of a model have to do for it: the power-on script
must end with reset high and the rails on **from whatever levels it is started at**, since bring-up
is also how a panel comes back from a sequence that stopped; and the power-off script must take
reset low before it switches the rails off. The tables need not be looked at: no entry moves a
level. Both models of the catalogue are wired this way, one with a regulated supply and one with
a pin.
-/

set_option autoImplicit false

namespace DsiPanel

variable {σ : Type}

/-! ## Levels -/

/-- How the bias rails of a board are switched. -/
inductive Supply where
  | regulated
  | pinned

/-- What an action does to the rails: on, off, or nothing. -/
def Supply.switched? : Supply → Action → Option Bool
  | .regulated, .bias enable _ _ => some enable
  | .pinned, .biasPin level => some (level == .high)
  | _, _ => none

/-- The level an action drives the reset line to. -/
def Action.driven? : Action → Option Level
  | .reset level => some level
  | _ => none

/-- What the accepted calls say about the reset line and the rails, each if any call does. -/
structure Levels where
  reset : Option Level := none
  rails : Option Bool := none
  deriving DecidableEq

namespace Levels

/-- Reset is released and the rails are on. -/
def on : Levels := ⟨some .high, some true⟩

/-- Reset is held and the rails are off. -/
def off : Levels := ⟨some .low, some false⟩

/-- The last accepted call that drives a level is the one that counts. -/
def learn (supply : Supply) (levels : Levels) : Call → Levels
  | ⟨action, .ok ()⟩ =>
    { reset := action.driven?.or levels.reset, rails := (supply.switched? action).or levels.rails }
  | ⟨_, .error _⟩ => levels

/-- The levels after some calls, of which the first finds nothing known. -/
def after (supply : Supply) (calls : List Call) : Levels :=
  calls.foldl (learn supply) {}

/-- Writes need the panel on, and the rails go off only while reset is held. -/
def watch (supply : Supply) : Watch Levels where
  learn := learn supply
  permits levels action :=
    (action.isWrite = true → levels = on) ∧
      (supply.switched? action = some false → levels.reset = some .low)

end Levels

@[simp] theorem Levels.watch_learn (supply : Supply) :
    (watch supply).learn = learn supply := rfl

theorem Levels.permits_iff {supply : Supply} {levels : Levels} {action : Action} :
    (watch supply).permits levels action = true ↔
      (action.isWrite = true → levels = on) ∧
        (supply.switched? action = some false → levels.reset = some .low) :=
  decide_eq_true_iff

def Event.switchesOff (supply : Supply) : Event → Bool
  | .acted action _ => supply.switched? action == some false
  | _ => false

/-! ## What is asked of the scripts -/

/-- The scripts switch the panel on from any levels, and off from where it is on, and reset is held
    whenever the rails go off. -/
structure Model.Wired (model : Model) (supply : Supply) : Prop where
  powerOn_clears : ∀ levels, (Levels.watch supply).clears levels model.powerOn.plan = true
  powerOn_leaves : ∀ levels, model.powerOn.plan.expect (Levels.learn supply) levels = .on
  powerOff_clears : (Levels.watch supply).clears .on model.powerOff.plan = true
  powerOff_leaves : model.powerOff.plan.expect (Levels.learn supply) .on = .off

/-- No entry moves a level, and every entry may go out while the panel is on. -/
theorem Levels.table_on (supply : Supply) (table : Table) (urgent : Bool) :
    (watch supply).clears on (table.plan urgent) = true ∧
      (table.plan urgent).expect (learn supply) on = on := by
  induction table with
  | nil => exact ⟨rfl, rfl⟩
  | cons entry rest ih =>
    have first : (watch supply).clears on (entry.demands urgent) = true ∧
        (entry.demands urgent).expect (learn supply) on = on := by
      cases entry with
      | delay | write =>
        -- Whatever the delay or the length, there is no level in the demand.
        rw [Entry.demands]
        split <;> cases supply <;> exact ⟨rfl, rfl⟩
      | microDelay | endMark => cases supply <;> exact ⟨rfl, rfl⟩
    rw [Table.plan_cons, Plan.expect_append, first.2]
    refine ⟨Watch.clears_append first.1 ?_, ih.2⟩
    rw [watch_learn, first.2]
    exact ih.1

namespace Model

variable {model : Model} {supply : Supply}

theorem Wired.up_clears (wired : model.Wired supply) (levels : Levels) :
    (Levels.watch supply).clears levels (model.plan .up) = true := by
  refine Watch.clears_append (wired.powerOn_clears levels) ?_
  rw [Levels.watch_learn, wired.powerOn_leaves]
  exact (Levels.table_on supply model.initTable true).1

theorem Wired.up_leaves (wired : model.Wired supply) (levels : Levels) :
    (model.plan .up).expect (Levels.learn supply) levels = .on := by
  rw [plan, Plan.expect_append, wired.powerOn_leaves]
  exact (Levels.table_on supply model.initTable true).2

theorem Wired.down_clears (wired : model.Wired supply) :
    (Levels.watch supply).clears .on (model.plan .down) = true := by
  obtain ⟨clears, leaves⟩ := Levels.table_on supply model.suspendTable true
  refine Watch.clears_append clears ?_
  rw [Levels.watch_learn, leaves]
  exact wired.powerOff_clears

theorem Wired.down_leaves (wired : model.Wired supply) :
    (model.plan .down).expect (Levels.learn supply) .on = .off := by
  rw [plan, Plan.expect_append, (Levels.table_on supply model.suspendTable true).2]
  exact wired.powerOff_leaves

end Model

/-- What the levels are in each state of the lifecycle. -/
def Levels.Expected : Lifecycle → Levels → Prop
  | .uninitialized, _ => True
  | .active, levels => levels = on
  | .suspended, levels => levels = off

theorem Model.Wired.tracks {model : Model} {supply : Supply} (wired : model.Wired supply) :
    Tracks (Levels.learn supply) model Levels.Expected where
  lost _ := trivial
  up levels := wired.up_leaves levels
  down levels on := by
    subst on
    exact wired.down_leaves

theorem Model.Wired.clears {model : Model} {supply : Supply} (wired : model.Wired supply)
    {operation : Operation} {direction : Direction} {state : Lifecycle} {levels : Levels}
    (moves : operation.direction? = some direction) (accepted : operation.accepts state = true)
    (expected : Levels.Expected state levels) :
    (Levels.watch supply).clears levels (model.plan direction) = true := by
  cases direction with
  | up => exact wired.up_clears levels
  | down =>
    rw [Operation.eq_active_of_down moves accepted] at expected
    rw [expected]
    exact wired.down_clears

/-! ## Levels along any operations -/

/-- The levels are those of the state of the panel, every transfer finds the panel on, and the rails
    are only switched off while reset is held. -/
structure Model.TracksLevels (model : Model) (supply : Supply) : Prop where
  active : ∀ {σ : Type} [Host σ] (host : σ) (operations : List Operation),
    ((Panel.withHost model host).performAll operations).2.state = .active →
      Levels.after supply ((Panel.withHost model host).history operations) = .on
  suspended : ∀ {σ : Type} [Host σ] (host : σ) (operations : List Operation),
    ((Panel.withHost model host).performAll operations).2.state = .suspended →
      Levels.after supply ((Panel.withHost model host).history operations) = .off
  transfers : model.Always fun past before _ event =>
    event.isWrite = true ∨ event.isRead = true → Levels.after supply (past ++ before) = .on
  switches : model.Always fun past before _ event =>
    event.switchesOff supply = true → (Levels.after supply (past ++ before)).reset = some .low

namespace Model

variable {model : Model} {supply : Supply}

theorem Wired.always_permits (wired : model.Wired supply) :
    model.Always fun past before _ event => ∀ action answer, event = .acted action answer →
      (Levels.watch supply).permits (Levels.after supply (past ++ before)) action = true :=
  wired.tracks.always_permits_tracked {} (fun _ => Levels.watch supply) (fun _ => rfl) wired.clears

theorem Wired.tracksLevels (wired : model.Wired supply) : model.TracksLevels supply where
  active host operations displays := by
    have expected := wired.tracks.expected_of_withHost {} host operations
    rwa [displays] at expected
  suspended host operations sleeps := by
    have expected := wired.tracks.expected_of_withHost {} host operations
    rwa [sleeps] at expected
  transfers := by
    intro σ _ host operations operation before event later start split transfers
    rcases transfers with writes | reads
    · obtain ⟨action, answer, rfl, writes⟩ := Event.acted_of_isWrite writes
      have permitted := wired.always_permits host operations operation before _ later split
        action answer rfl
      exact (Levels.permits_iff.mp permitted).1 writes
    · exact wired.tracks.always_reads {} host operations operation before event later split reads
  switches := by
    intro σ _ host operations operation before event later start split off
    cases event with
    | noted | read => cases off
    | acted action answer =>
      have permitted := wired.always_permits host operations operation before _ later split
        action answer rfl
      exact (Levels.permits_iff.mp permitted).2 (by simpa [Event.switchesOff] using off)

end Model

/-! ## The two models of the catalogue -/

namespace Catalog

theorem St7703.wired : st7703.Wired .regulated where
  powerOn_clears _ := rfl
  powerOn_leaves _ := rfl
  powerOff_clears := rfl
  powerOff_leaves := rfl

theorem Jd9365.wired : jd9365.Wired .pinned where
  powerOn_clears _ := rfl
  powerOn_leaves _ := rfl
  powerOff_clears := rfl
  powerOff_leaves := rfl

/-- **The levels of both models are those of their state.** One has its rails from a regulated
    supply, the other switches them with a pin. -/
theorem levels_track_lifecycle :
    st7703.TracksLevels .regulated ∧ jd9365.TracksLevels .pinned :=
  ⟨St7703.wired.tracksLevels, Jd9365.wired.tracksLevels⟩

end Catalog

end DsiPanel
