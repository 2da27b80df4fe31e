import DsiPanel.Proofs.Parts

/-!
# The walk of a power script, step by step

A script is a plan with nothing left out: each of its steps is asked for, and none is refused. So
what can be said about the walk of a script is said by the calls it made, and `Walks` says all of
it.

* The calls are those of the first steps, in order, and the journal apart nothing else happened.
* Each call was made on the host that the one before left, and the host at the end is the one that
  the last call left.
* A call that failed is the last one, and its fault is the result; without one, all steps were asked
  for.

> **A script is walked up to the first step that fails** (`play_walks`), and so a script in two
> parts is the first part, and the second one if the first is complete.

What a step asks for is written down once more, step by step (`Step.AskedBy`). It does not go
through the walk that is under proof.
-/

set_option autoImplicit false

namespace DsiPanel

variable {σ : Type}

/-! ## What a step asks for -/

/-- The call is the one that the step asks for, whatever the answer. A wait is a wait in
    milliseconds, and no length of it is an exception. -/
inductive Step.AskedBy : Step → Call → Prop where
  | reset (level : Level) (answer : Except Fault Unit) :
      AskedBy (.reset level) ⟨.reset level, answer⟩
  | bias (enable : Bool) (order : RailOrder) (millivolts : UInt16) (answer : Except Fault Unit) :
      AskedBy (.bias enable order millivolts) ⟨.bias enable order millivolts, answer⟩
  | biasPin (level : Level) (answer : Except Fault Unit) :
      AskedBy (.biasPin level) ⟨.biasPin level, answer⟩
  | delayMs (milliseconds : UInt32) (answer : Except Fault Unit) :
      AskedBy (.delayMs milliseconds) ⟨.waitMs milliseconds, answer⟩

theorem Step.askedBy (step : Step) (answer : Except Fault Unit) :
    step.AskedBy ⟨step.action, answer⟩ := by
  cases step with
  | reset level => exact .reset level answer
  | bias enable order millivolts => exact .bias enable order millivolts answer
  | biasPin level => exact .biasPin level answer
  | delayMs milliseconds => exact .delayMs milliseconds answer

/-! ## Calls and nothing else -/

def Call.event (call : Call) : Event :=
  .acted call.action call.answer

theorem map_event_callsOf {events : List Event}
    (acted : ∀ event ∈ events, ∃ action answer, event = .acted action answer) :
    (callsOf events).map Call.event = events := by
  induction events with
  | nil => rfl
  | cons event rest ih =>
    obtain ⟨action, answer, rfl⟩ := acted event List.mem_cons_self
    have later := ih fun event among => acted event (List.mem_cons_of_mem _ among)
    rw [callsOf_acted, List.map_cons, later]
    rfl

/-! ## A plan that refuses nothing -/

namespace Carried

variable {plan : Plan} {calls : List Call} {ending : Except Fault Unit}

theorem ok_iff (carried : Carried plan calls ending) (sendable : .refuse ∉ plan) :
    ending = .ok () ↔
      calls.length = plan.length ∧ ∀ call ∈ calls, call.answer = .ok () := by
  constructor
  · intro complete
    have asked := congrArg List.length (carried.asked_of_ok complete)
    exact ⟨by simpa using asked, carried.accepted_of_ok complete⟩
  · rintro ⟨-, accepted⟩
    exact carried.ok_of_accepted sendable accepted

theorem error_iff (carried : Carried plan calls ending) (sendable : .refuse ∉ plan)
    {fault : Fault} :
    ending = .error fault ↔ ∃ before action, calls = before ++ [⟨action, .error fault⟩] := by
  refine ⟨fun stopped => carried.last_of_error stopped sendable, ?_⟩
  rintro ⟨before, action, made⟩
  cases ending with
  | ok =>
    have last : ⟨action, .error fault⟩ ∈ calls := by simp [made]
    cases carried.accepted_of_ok rfl _ last
  | error other =>
    obtain ⟨_, _, last⟩ := carried.last_of_error rfl sendable
    rw [made] at last
    obtain ⟨-, same⟩ := List.append_inj' last rfl
    cases same
    rfl

/-- Nothing is asked for after a call that failed. -/
theorem accepted_dropLast (carried : Carried plan calls ending) (sendable : .refuse ∉ plan) :
    ∀ call ∈ calls.dropLast, call.answer = .ok () := by
  intro call among
  cases ending with
  | ok => exact carried.accepted_of_ok rfl call (List.dropLast_subset calls among)
  | error fault =>
    rcases carried.halt rfl with ⟨before, action, made, fine⟩ | ⟨-, -, later, refused⟩
    · rw [made, List.dropLast_concat] at among
      exact fine call among
    · refine absurd ?_ sendable
      rw [refused]
      exact List.mem_append_right _ List.mem_cons_self

end Carried

/-! ## The walk -/

/-- **How a script is walked on a host**, said of what the walk reports. -/
structure Script.Walks [Host σ] (script : Script) (host : σ) (report : Report Fault σ Unit) :
    Prop where
  /-- as many calls as were made, so many steps from the front were asked for, one call each -/
  asked : List.Forall₂ Step.AskedBy (script.take report.calls.length) report.calls
  /-- there is nothing besides, the journal apart -/
  bare : report.quiet.events = report.calls.map Call.event
  /-- each call is made on the host that the one before left, and nothing is taken back -/
  underwent : Underwent host report.events report.state
  /-- only the last call may have failed -/
  earlier : ∀ call ∈ report.calls.dropLast, call.answer = .ok ()
  /-- the walk is complete just if every step was asked for and every call went well -/
  complete_iff : report.outcome = .ok () ↔
    report.calls.length = script.length ∧ ∀ call ∈ report.calls, call.answer = .ok ()
  /-- the result is a fault just if the last call answered with it -/
  stopped_iff : ∀ fault, report.outcome = .error fault ↔
    ∃ before action, report.calls = before ++ [⟨action, .error fault⟩]

namespace Script

theorem asked_of_carried {script : Script} {plan : Plan} {calls : List Call}
    {ending : Except Fault Unit} (carried : Carried plan calls ending) (same : plan = script.plan) :
    List.Forall₂ Step.AskedBy (script.take calls.length) calls := by
  induction carried generalizing script with
  | complete | refused => exact .nil
  | accepted _ ih =>
    cases script with
    | nil => cases same
    | cons step rest =>
      obtain ⟨first, later⟩ := List.cons.inj same
      cases first
      exact .cons (step.askedBy _) (ih later)
  | failed =>
    cases script with
    | nil => cases same
    | cons step rest =>
      obtain ⟨first, -⟩ := List.cons.inj same
      cases first
      exact .cons (step.askedBy _) .nil

variable [Host σ]

theorem quiet_events_play (script : Script) (host : σ) :
    (script.play host).quiet.events = (script.play host).calls.map Call.event := by
  have same : (script.play host).quiet = script.plan.run host := congrFun script.play_quiet host
  rw [← Report.calls_quiet, same]
  exact (map_event_callsOf fun _ => Plan.acted_of_mem).symm

theorem walks_play (script : Script) (host : σ) : script.Walks host (script.play host) := by
  have carried : Carried script.plan (script.play host).calls (script.play host).outcome :=
    Plan.carried_of_quiet script.play_quiet host
  have sendable : .refuse ∉ script.plan := refuse_not_mem_plan
  refine ⟨asked_of_carried carried rfl, script.quiet_events_play host, script.play_recounts host,
    carried.accepted_dropLast sendable, ?_, fun fault => carried.error_iff sendable⟩
  rw [carried.ok_iff sendable, plan, List.length_map]

end Script

/-- **A script is walked up to the first step that fails**, on every host. A script in two parts is
    the first part and then, if that is complete, the second one on the host that it left. -/
theorem play_walks [Host σ] (host : σ) :
    (∀ script : Script, script.Walks host (script.play host)) ∧
      ∀ first second : Script, Script.play (first ++ second) host =
        match (first.play host).outcome with
        | .ok () => (second.play (first.play host).state).after (first.play host).events
        | .error _ => first.play host := by
  refine ⟨fun script => script.walks_play host, fun first second => ?_⟩
  rw [Script.play_append, Run.bind_apply]
  cases ending : (first.play host).outcome with
  | ok => rfl
  | error fault =>
    show ⟨.error fault, (first.play host).events, (first.play host).state⟩ = first.play host
    rw [← ending]

end DsiPanel
