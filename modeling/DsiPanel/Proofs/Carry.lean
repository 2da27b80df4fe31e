import DsiPanel.Panel.Session
import DsiPanel.Proofs.Uniform

/-!
# Runs that carry over to other hosts

One run carries over to another if the two report the same, up to what is done to events and to
states in between (`Run.Carries`). It is enough to know this of the calls that a run makes
(`Run.Carries.congruence`).

A panel adds lines of its own and keeps a state of its own, and what is done to panels has to go
along with both; that is a `Panel.Carrier`. With one, an operation carries over as soon as what it
runs on its host does.
-/

set_option autoImplicit false

namespace DsiPanel

variable {ε σ τ α β : Type}

/-! ## Runs -/

/-- The report, with something done to each event and to the state. -/
def Report.carried (onEvent : Event → Event) (onState : σ → τ) (report : Report ε σ α) :
    Report ε τ α :=
  ⟨report.outcome, report.events.map onEvent, onState report.state⟩

/-- Started on what becomes of a state, the second run reports what becomes of the first report. -/
def Run.Carries (onEvent : Event → Event) (onState : σ → τ) (run : Run ε σ α)
    (image : Run ε τ α) : Prop :=
  ∀ state, image (onState state) = (run state).carried onEvent onState

namespace Run.Carries

variable {onEvent : Event → Event} {onState : σ → τ}

theorem outcome_eq {run : Run ε σ α} {image : Run ε τ α}
    (carries : Carries onEvent onState run image) (state : σ) :
    (image (onState state)).outcome = (run state).outcome := by
  rw [carries state]
  rfl

theorem bind {first : Run ε σ α} {next : α → Run ε σ β} {image : Run ε τ α}
    {imageNext : α → Run ε τ β} (carries : Carries onEvent onState first image)
    (later : ∀ value, Carries onEvent onState (next value) (imageNext value)) :
    Carries onEvent onState (first >>= next) (image >>= imageNext) := by
  intro state
  have outcomes := carries.outcome_eq state
  cases went : (first state).outcome with
  | ok value =>
    rw [went] at outcomes
    rw [Run.bind_of_ok outcomes, Run.bind_of_ok went, carries state]
    show (imageNext value (onState (first state).state)).after _ = _
    rw [later value]
    simp [Report.carried, Report.after]
  | error cause =>
    rw [went] at outcomes
    rw [Run.bind_of_error outcomes, Run.bind_of_error went, carries state]
    rfl

theorem map (f : α → β) {run : Run ε σ α} {image : Run ε τ α}
    (carries : Carries onEvent onState run image) :
    Carries onEvent onState (f <$> run) (f <$> image) := by
  intro state
  rw [Run.map_apply, Run.map_apply, carries state]
  rfl

/-- **It is enough that the calls carry over**, line by line and action by action. -/
theorem congruence [Host σ] [Host τ] (onLine : Journal.Line → Journal.Line)
    (onAction : Action → Action) (lines : ∀ line, onEvent (.noted line) = .noted (onLine line))
    (events : ∀ action answer, onEvent (.acted action answer) = .acted (onAction action) answer)
    (acts : ∀ action host, Host.act (onAction action) (onState host) =
      ((Host.act action host).1, onState (Host.act action host).2)) :
    Run.Congruence (onLine · = ·) (onAction · = ·)
      fun _ (run : Run Fault σ _) image => Carries onEvent onState run image where
  pure _ _ := rfl
  fail _ _ := rfl
  note := by
    rintro line _ rfl host
    simp [Report.carried, lines]
  act := by
    rintro action _ rfl host
    simp [Report.carried, acts, events]
  bind := Carries.bind

end Run.Carries

/-! ## Panels -/

namespace Panel

/-- What is done to panels goes along with what is done to their hosts and to their lines. -/
structure Carrier (onEvent : Event → Event) (onHost : σ → τ) (onPanel : Panel σ → Panel τ) :
    Prop where
  host : ∀ panel, (onPanel panel).host = panel.host.map onHost
  state : ∀ panel, (onPanel panel).state = panel.state
  moved : ∀ panel host state, onPanel { panel with host := some host, state } =
    { onPanel panel with host := some (onHost host), state }
  repeated : ∀ panel,
    onEvent (.noted (.repeated panel.name)) = .noted (.repeated (onPanel panel).name)
  begun : ∀ panel operation,
    onEvent (.noted (.begun panel.name operation)) = .noted (.begun (onPanel panel).name operation)
  completed : ∀ panel operation, onEvent (.noted (.completed panel.name operation)) =
    .noted (.completed (onPanel panel).name operation)
  aborted : ∀ panel operation fault, onEvent (.noted (.aborted panel.name operation fault)) =
    .noted (.aborted (onPanel panel).name operation fault)

namespace Carrier

variable {onEvent : Event → Event} {onHost : σ → τ} {onPanel : Panel σ → Panel τ}

section

variable {operation : Operation}

theorem guarded (carrier : Carrier onEvent onHost onPanel) {body : Run Error (Panel σ) α}
    {image : Run Error (Panel τ) α} (carries : Run.Carries onEvent onPanel body image) :
    Run.Carries onEvent onPanel (Panel.guarded operation body) (Panel.guarded operation image) := by
  intro panel
  have same := carrier.state panel
  cases accepted : operation.accepts panel.state with
  | true =>
    have alike : operation.accepts (onPanel panel).state = true := by rw [same, accepted]
    rw [guarded_of_accepts alike, guarded_of_accepts accepted]
    exact carries panel
  | false =>
    have alike : operation.accepts (onPanel panel).state = false := by rw [same, accepted]
    rw [guarded_of_not_accepts alike, guarded_of_not_accepts accepted, same]
    rfl

theorem transition (carrier : Carrier onEvent onHost onPanel) {sequence : Run Fault σ Unit}
    {image : Run Fault τ Unit} (carries : Run.Carries onEvent onHost sequence image)
    (target : Lifecycle) (panel : Panel σ) :
    Panel.transition operation target image (onPanel panel) =
      (Panel.transition operation target sequence panel).carried onEvent onPanel := by
  cases held : panel.host with
  | none =>
    have bare : (onPanel panel).host = none := by rw [carrier.host, held]; rfl
    rw [transition_of_no_host bare, transition_of_no_host held]
    rfl
  | some host =>
    have holds : (onPanel panel).host = some (onHost host) := by rw [carrier.host, held]; rfl
    have outcomes := carries.outcome_eq host
    cases ended : (sequence host).outcome with
    | ok =>
      rw [ended] at outcomes
      rw [transition_of_ok holds outcomes, transition_of_ok held ended, carries host]
      simp [Report.carried, carrier.begun, carrier.completed, carrier.moved]
    | error fault =>
      rw [ended] at outcomes
      rw [transition_of_error holds outcomes, transition_of_error held ended, carries host]
      simp [Report.carried, carrier.begun, carrier.aborted, carrier.moved]

end

variable [Host σ] [Host τ]

section

variable (carrier : Carrier onEvent onHost onPanel)
  (sequence : ∀ panel direction, Run.Carries onEvent onHost (panel.model.sequence direction)
    ((onPanel panel).model.sequence direction))

include carrier sequence

theorem bringUp : Run.Carries onEvent onPanel Panel.bringUp Panel.bringUp :=
  carrier.guarded fun panel => by
    have up : Run.Carries onEvent onHost panel.model.up (onPanel panel).model.up :=
      sequence panel .up
    rw [carrier.transition up .active panel, carrier.state]
    split <;> simp [Report.after, Report.carried, carrier.repeated]

theorem suspend : Run.Carries onEvent onPanel Panel.suspend Panel.suspend :=
  carrier.guarded fun panel => carrier.transition (sequence panel .down) .suspended panel

theorem resume : Run.Carries onEvent onPanel Panel.resume Panel.resume :=
  carrier.guarded fun panel => carrier.transition (sequence panel .up) .active panel

end

theorem checkLiveness (carrier : Carrier onEvent onHost onPanel)
    (isAlive : ∀ panel,
      Run.Carries onEvent onHost panel.model.isAlive (onPanel panel).model.isAlive) :
    Run.Carries onEvent onPanel Panel.checkLiveness Panel.checkLiveness :=
  carrier.guarded fun panel => by
    have same := carrier.state panel
    cases held : panel.host with
    | none => simp [carrier.host, held, Report.carried]
    | some host =>
      have moved := carrier.moved panel (panel.model.isAlive host).state panel.state
      simp [carrier.host, held, isAlive panel host, Report.carried, moved, same]

end Carrier

/-- Where each request carries over, all of them do. -/
theorem serveAll_carried [Host σ] [Host τ] {onPanel : Panel σ → Panel τ}
    {onRequest : Request σ → Request τ}
    {onReport : Report Error (Panel σ) (Answer σ) → Report Error (Panel τ) (Answer τ)}
    (states : ∀ report, (onReport report).state = onPanel report.state)
    (served : ∀ request panel, serve (onRequest request) (onPanel panel) =
      onReport (serve request panel)) (panel : Panel σ) (requests : List (Request σ)) :
    (onPanel panel).serveAll (requests.map onRequest) =
      ((panel.serveAll requests).1.map onReport, onPanel (panel.serveAll requests).2) := by
  induction requests generalizing panel with
  | nil => rfl
  | cons request rest ih =>
    rw [List.map_cons, serveAll_cons, serveAll_cons, served, states, ih]
    rfl

end Panel

end DsiPanel
