import DsiPanel.Proofs.Ending

/-!
# A report is a true account

The events of a report are a list of requests with their answers. That the answers are those the
host gave, one request after the other and each in the state that the one before left, is what
makes a statement about events a statement about the host. `Underwent` says it of a host and some
events, and `Tended` of what a panel holds, which may be nothing.

> **What an operation reports is what its host went through**, and nobody touched the host besides:
> `Ended.tended`.

Later modules read the events and no longer ask where they come from.
-/

set_option autoImplicit false

namespace DsiPanel

variable {σ : Type}

/-! ## Answers to calls -/

/-- The answer of an event that is a call on the host, whatever came with it. -/
def Event.reply? : Event → Option (Except Fault Unit)
  | .noted _ => none
  | .acted _ answer => some answer
  | .read _ _ answer _ => some (answer.map fun _ => ())

/-- What the host answered, call by call. Reads are counted. -/
def repliesOf (events : List Event) : List (Except Fault Unit) :=
  events.filterMap Event.reply?

@[simp] theorem repliesOf_acted (action : Action) (answer : Except Fault Unit)
    (events : List Event) :
    repliesOf (.acted action answer :: events) = answer :: repliesOf events := rfl

@[simp] theorem repliesOf_read (register : UInt32) (offered filled : List UInt8)
    (answer : Except Fault Nat) (events : List Event) :
    repliesOf (.read register offered answer filled :: events) =
      (answer.map fun _ => ()) :: repliesOf events := rfl

def Report.replies {ε α : Type} (report : Report ε σ α) : List (Except Fault Unit) :=
  repliesOf report.events

theorem repliesOf_eq_nil_of_noted {events : List Event}
    (noted : ∀ event ∈ events, ∃ line, event = .noted line) : repliesOf events = [] := by
  apply List.filterMap_eq_nil_iff.mpr
  intro event among
  obtain ⟨line, rfl⟩ := noted event among
  rfl

/-- Where nothing is read, the calls are all there is to answer. -/
theorem repliesOf_eq_of_unread {events : List Event}
    (unread : ∀ register offered answer filled, .read register offered answer filled ∉ events) :
    repliesOf events = (callsOf events).map Call.answer := by
  induction events with
  | nil => rfl
  | cons event rest ih =>
    have later := ih fun register offered answer filled among =>
      unread register offered answer filled (List.mem_cons_of_mem _ among)
    cases event with
    | noted => exact later
    | acted action answer => simp [later]
    | read register offered answer filled =>
      exact absurd List.mem_cons_self (unread register offered answer filled)

/-! ## Going through events -/

/-- The host goes through the events and is `last` in the end: each call is made in the state that
    the one before left, and answered as it says. A journal line is nothing to the host. -/
inductive Underwent [Host σ] : σ → List Event → σ → Prop where
  | nothing {host : σ} : Underwent host [] host
  | noted {host last : σ} {line : Journal.Line} {later : List Event}
      (rest : Underwent host later last) : Underwent host (.noted line :: later) last
  | acted {host last : σ} {action : Action} {later : List Event}
      (rest : Underwent (Host.act action host).2 later last) :
      Underwent host (.acted action (Host.act action host).1 :: later) last
  | read {host last : σ} {n : Nat} {register : UInt32} {buffer : Vector UInt8 n}
      {later : List Event} (rest : Underwent (Host.readInto register buffer host).2 later last) :
      Underwent host
        (.read register buffer.toList (Host.readInto register buffer host).1.count
          (Host.readInto register buffer host).1.buffer.toList :: later) last

namespace Underwent

variable [Host σ]

theorem append {host between last : σ} {first second : List Event}
    (before : Underwent host first between) (after : Underwent between second last) :
    Underwent host (first ++ second) last := by
  induction before with
  | nothing => exact after
  | noted _ ih => exact .noted (ih after)
  | acted _ ih => exact .acted (ih after)
  | read _ ih => exact .read (ih after)

theorem quiet {host last : σ} {events : List Event} (underwent : Underwent host events last) :
    Underwent host (events.filter fun event => event.line?.isNone) last := by
  induction underwent with
  | nothing => exact .nothing
  | noted _ ih => exact ih
  | acted _ ih => exact .acted ih
  | read _ ih => exact .read ih

/-- No call changes a badge, so neither do many. -/
theorem badge_eq {ι : Type} {badge : σ → ι} (kept : KeptByCalls badge) {host last : σ}
    {events : List Event} (underwent : Underwent host events last) : badge last = badge host := by
  induction underwent with
  | nothing => rfl
  | noted _ ih => exact ih
  | acted _ ih => exact ih.trans (kept.act _ _)
  | read _ ih => exact ih.trans (kept.readInto _ _ _)

end Underwent

/-! ## Runs that tell the truth -/

/-- The run reports what its host went through, however it ends. -/
def Run.Recounts [Host σ] {ε α : Type} (run : Run ε σ α) : Prop :=
  ∀ host, Underwent host (run host).events (run host).state

namespace Run

variable [Host σ] {ε α β : Type}

theorem Recounts.pure (value : α) : (Pure.pure value : Run ε σ α).Recounts := fun _ => .nothing

theorem Recounts.fail (cause : ε) : (Run.fail cause : Run ε σ α).Recounts := fun _ => .nothing

theorem Recounts.note (line : Journal.Line) : (Run.note line : Run ε σ Unit).Recounts :=
  fun _ => .noted .nothing

theorem Recounts.act (action : Action) : (Run.act action : Run Fault σ Unit).Recounts :=
  fun _ => .acted .nothing

theorem Recounts.read {n : Nat} (register : UInt32) (buffer : Vector UInt8 n) :
    (Run.read register buffer : Run Fault σ _).Recounts :=
  fun _ => .read .nothing

theorem Recounts.bind {first : Run ε σ α} {next : α → Run ε σ β} (recountsFirst : first.Recounts)
    (recountsNext : ∀ value, (next value).Recounts) : (first >>= next).Recounts := by
  intro host
  cases went : (first host).outcome with
  | ok value =>
    rw [bind_of_ok went]
    exact (recountsFirst host).append (recountsNext value _)
  | error cause =>
    rw [bind_of_error went]
    exact recountsFirst host

theorem recounts_congruence :
    Congruence (fun _ _ => True) (fun _ _ => True)
      fun α (run _ : Run Fault σ α) => run.Recounts where
  pure := .pure
  fail := .fail
  note _ := .note _
  act _ := .act _
  bind := .bind

end Run

section

variable [Host σ]

theorem Table.send_recounts (table : Table) (urgent : Bool) :
    (table.send urgent : Run Fault σ Unit).Recounts :=
  Run.recounts_congruence.send (.of_refl (fun _ => trivial) fun _ => trivial) table urgent

theorem Script.play_recounts (script : Script) : (script.play : Run Fault σ Unit).Recounts :=
  Run.recounts_congruence.play (List.forall₂_same.mpr fun _ _ => ⟨trivial, trivial⟩)

theorem Model.sequence_recounts (model : Model) (direction : Direction) :
    (model.sequence direction : Run Fault σ Unit).Recounts :=
  Run.recounts_congruence.sequence (.of_refl (fun _ => trivial) (fun _ => trivial) model) direction

theorem Scratch.check_recounts (panel : String) (scratch : Scratch) (probes : List Probe) :
    (scratch.check panel probes : Run Fault σ Bool).Recounts :=
  Run.recounts_congruence.check ⟨fun _ _ _ _ => trivial, .read⟩ panel scratch probes

theorem Model.isAlive_recounts (model : Model) : (model.isAlive : Run Fault σ Bool).Recounts :=
  Run.recounts_congruence.isAlive ⟨fun _ _ _ _ => trivial, .read⟩
    (.of_refl (fun _ => trivial) (fun _ => trivial) model)

end

/-! ## What a panel holds, and what happened to it -/

/-- What was held went through the events and is still held. Where nothing was held, nothing is,
    and there was no call. -/
inductive Tended [Host σ] : Option σ → List Event → Option σ → Prop where
  | held {host last : σ} {events : List Event} (underwent : Underwent host events last) :
      Tended (some host) events (some last)
  | bare {events : List Event} (silent : ∀ event ∈ events, event.line?.isSome = true) :
      Tended none events none

namespace Tended

variable [Host σ] {first between last : Option σ} {events later : List Event}

theorem refl (host : Option σ) : Tended host [] host := by
  cases host with
  | none => exact .bare (by simp)
  | some host => exact .held .nothing

theorem append (before : Tended first events between) (after : Tended between later last) :
    Tended first (events ++ later) last := by
  cases before with
  | held underwent =>
    cases after with
    | held underwentLater => exact .held (underwent.append underwentLater)
  | bare silent =>
    cases after with
    | bare silentLater =>
      refine .bare fun event among => ?_
      rcases List.mem_append.mp among with here | there
      · exact silent event here
      · exact silentLater event there

theorem quiet (tended : Tended first events last) :
    Tended first (events.filter fun event => event.line?.isNone) last := by
  cases tended with
  | held underwent => exact .held underwent.quiet
  | bare silent => exact .bare fun event among => silent event (List.mem_filter.mp among).1

end Tended

namespace Panel

variable [Host σ] {panel : Panel σ} {operation : Operation}
  {report : Report Error (Panel σ) (Answer σ)}

theorem underwent_remarks (panel : Panel σ) (operation : Operation) (host : σ) :
    Underwent host (panel.remarks operation) host := by
  unfold remarks
  split
  · exact .noted .nothing
  · exact .nothing

/-- **What an operation reports is what the host of the panel went through.** -/
theorem Ended.tended (ended : Ended panel operation report) :
    Tended panel.host report.events report.state.host := by
  cases ended with
  | refused => exact .refl _
  | hostless _ bare =>
    rw [bare]
    refine .bare fun event among => ?_
    unfold remarks at among
    split at among
    · rw [List.mem_singleton.mp among]
      rfl
    · cases among
  | @completed host direction _ held | @stopped host direction _ _ held =>
    rw [held]
    -- The journal has a line before the sequence and one after it.
    have sequence := panel.model.sequence_recounts direction host
    exact .held ((panel.underwent_remarks operation _).append
      ((Underwent.noted sequence).append (.noted .nothing)))
  | checked _ held =>
    rw [held]
    exact .held (Model.isAlive_recounts panel.model _)

end Panel

end DsiPanel
