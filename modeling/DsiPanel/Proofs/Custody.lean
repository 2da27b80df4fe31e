import DsiPanel.Proofs.Account
import DsiPanel.Proofs.Recovery

/-!
# What becomes of the hosts that are handed over

A panel takes hosts in and gives them back, at any time and in any state, and drives the one it has.
A host that is given back is worth something only if it is the one that was handed over and nobody
but the panel has driven it meanwhile.

A **tenure** is the stay of one host with a panel: the host as it came, the calls made on it, and
the host as it was given back or is now. `tenures` writes them down along a session.

> **The books balance** (`hosts_are_accounted_for`): the hosts that came are those of the tenures in
> order, those that went and the one still held are too, each went through just the calls of its
> tenure, and there were no other calls.

A panel without a host therefore never had one, and since only a host leads out of the first state,
being brought up is the one operation that can find none.
-/

set_option autoImplicit false

namespace DsiPanel.Panel

variable {σ : Type}

/-! ## Errands and tenures -/

/-- What is asked of a panel when nobody reaches past it for the host. -/
inductive Errand (σ : Type) where
  | handOver (host : σ)
  | perform (operation : Operation)

namespace Errand

def request : Errand σ → Request σ
  | .handOver host => .configure host
  | .perform operation => .perform operation

def host? : Errand σ → Option σ
  | .handOver host => some host
  | .perform _ => none

end Errand

/-- The host that a report gives back, if there is one. -/
def returned? (report : Report Error (Panel σ) (Answer σ)) : Option σ :=
  match report.outcome with
  | .ok (.replaced previous) => previous
  | _ => none

/-- The stay of a host with a panel: how it came, what was called on it, and how it left or is. -/
structure Tenure (σ : Type) where
  given : σ
  calls : List Event
  back : σ

/-- The stay of the host that is held, if one is. -/
def Tenure.ofHeld : Option σ → List Event → Option σ → List (Tenure σ)
  | some given, calls, some back => [⟨given, calls, back⟩]
  | _, _, _ => []

variable [Host σ]

/-- The tenures that are still to end, from what was handed over last and the calls since then. -/
def tenuresFrom (given : Option σ) (calls : List Event) (panel : Panel σ) :
    List (Errand σ) → List (Tenure σ)
  | [] => Tenure.ofHeld given calls panel.host
  | .perform operation :: rest =>
    let report := perform operation panel
    tenuresFrom given (calls ++ report.quiet.events) report.state rest
  | .handOver host :: rest =>
    Tenure.ofHeld given calls panel.host ++
      tenuresFrom (some host) [] (serve (.configure host) panel).state rest

/-- All tenures of a session, in order. The last one may be open. -/
def tenures (panel : Panel σ) (errands : List (Errand σ)) : List (Tenure σ) :=
  tenuresFrom panel.host [] panel errands

/-- The session that the errands make. -/
def runAll (panel : Panel σ) (errands : List (Errand σ)) :
    List (Report Error (Panel σ) (Answer σ)) × Panel σ :=
  panel.serveAll (errands.map Errand.request)

@[simp] theorem runAll_nil (panel : Panel σ) : panel.runAll [] = ([], panel) := rfl

theorem runAll_cons (panel : Panel σ) (errand : Errand σ) (rest : List (Errand σ)) :
    panel.runAll (errand :: rest) =
      (serve errand.request panel :: ((serve errand.request panel).state.runAll rest).1,
        ((serve errand.request panel).state.runAll rest).2) := rfl

/-! ## The books along a session -/

/-- What is known of the stay so far: the host went through the calls, and without one there were
    none. -/
structure Stays (given : Option σ) (calls : List Event) (back : Option σ) : Prop where
  tended : Tended given calls back
  idle : given = none → calls = []

namespace Stays

variable {given back next : Option σ} {calls later : List Event}

theorem start (host : Option σ) : Stays host [] host :=
  ⟨.refl host, fun _ => rfl⟩

theorem extend (stays : Stays given calls back) (tended : Tended back later next) :
    Stays given (calls ++ later.filter fun event => event.line?.isNone) next := by
  refine ⟨stays.tended.append tended.quiet, fun bare => ?_⟩
  subst bare
  have held := stays.tended
  cases held
  cases tended with
  | bare silent =>
    rw [stays.idle rfl, List.nil_append, List.filter_eq_nil_iff]
    intro event among
    rw [Option.isNone_iff_eq_none, ← Option.not_isSome_iff_eq_none, not_not]
    exact silent event among

theorem given_ofHeld (stays : Stays given calls back) :
    (Tenure.ofHeld given calls back).map Tenure.given = given.toList := by
  have tended := stays.tended
  cases tended <;> rfl

theorem back_ofHeld (stays : Stays given calls back) :
    (Tenure.ofHeld given calls back).map Tenure.back = back.toList := by
  have tended := stays.tended
  cases tended <;> rfl

theorem calls_ofHeld (stays : Stays given calls back) :
    (Tenure.ofHeld given calls back).flatMap Tenure.calls = calls := by
  have tended := stays.tended
  cases tended with
  | held => exact List.append_nil _
  | bare => exact (stays.idle rfl).symm

theorem underwent_ofHeld (stays : Stays given calls back) :
    ∀ tenure ∈ Tenure.ofHeld given calls back,
      Underwent tenure.given tenure.calls tenure.back := by
  have tended := stays.tended
  cases tended with
  | held underwent =>
    intro tenure among
    rw [List.mem_singleton.mp among]
    exact underwent
  | bare => nofun

end Stays

/-- The tenures from here on balance the hosts and the calls, with those of the stay so far. -/
structure Balanced (given : Option σ) (calls : List Event) (panel : Panel σ)
    (errands : List (Errand σ)) : Prop where
  came : (tenuresFrom given calls panel errands).map Tenure.given =
    given.toList ++ errands.filterMap Errand.host?
  went : (tenuresFrom given calls panel errands).map Tenure.back =
    (panel.runAll errands).1.filterMap returned? ++ (panel.runAll errands).2.host.toList
  driven : ∀ tenure ∈ tenuresFrom given calls panel errands,
    Underwent tenure.given tenure.calls tenure.back
  calls : (tenuresFrom given calls panel errands).flatMap Tenure.calls =
    calls ++ (panel.runAll errands).1.flatMap fun report => report.quiet.events

section

variable {panel : Panel σ} {operation : Operation} {report : Report Error (Panel σ) (Answer σ)}

theorem Ended.returned?_eq_none (ended : Ended panel operation report) :
    returned? report = none := by
  cases ended with
  | refused | hostless | completed | stopped => rfl
  | @checked host =>
    unfold returned?
    cases (panel.model.isAlive host).outcome <;> rfl

end

/-- A host that is handed over sends back the one that was held. -/
theorem filterMap_returned?_configure (panel : Panel σ) (host : σ)
    (later : List (Report Error (Panel σ) (Answer σ))) :
    (serve (.configure host) panel :: later).filterMap returned? =
      panel.host.toList ++ later.filterMap returned? := by
  have gave : returned? (serve (.configure host) panel) = panel.host := rfl
  rw [List.filterMap_cons, gave]
  cases panel.host <;> rfl

/-- **The books balance**, with the stay so far carried along the errands. -/
theorem Stays.balanced {given : Option σ} {calls : List Event} {panel : Panel σ}
    (stays : Stays given calls panel.host) (errands : List (Errand σ)) :
    Balanced given calls panel errands := by
  induction errands generalizing given calls panel with
  | nil =>
    refine ⟨?_, stays.back_ofHeld, stays.underwent_ofHeld, ?_⟩
    · rw [tenuresFrom, stays.given_ofHeld, List.filterMap_nil, List.append_nil]
    · rw [tenuresFrom, stays.calls_ofHeld]
      exact (List.append_nil calls).symm
  | cons errand rest ih =>
    cases errand with
    | perform operation =>
      -- The stay goes on.
      have ended := ended_perform panel operation
      have next := ih (stays.extend ended.tended)
      refine ⟨next.came, ?_, next.driven, ?_⟩
      · rw [runAll_cons, List.filterMap_cons, Errand.request, serve_perform,
          ended.returned?_eq_none]
        exact next.went
      · rw [runAll_cons, List.flatMap_cons, ← List.append_assoc]
        exact next.calls
    | handOver host =>
      -- The stay of the host that is held ends here, and the next one starts.
      let after := (serve (.configure host) panel).state
      have next : Balanced (some host) [] after rest := ih (.start _)
      have split : tenuresFrom given calls panel (.handOver host :: rest) =
          Tenure.ofHeld given calls panel.host ++ tenuresFrom (some host) [] after rest := rfl
      refine ⟨?_, ?_, fun tenure among => ?_, ?_⟩
      · rw [split, List.map_append, stays.given_ofHeld, next.came]
        rfl
      · rw [split, List.map_append, stays.back_ofHeld, next.went, ← List.append_assoc]
        exact (congrArg (· ++ _) (filterMap_returned?_configure panel host _)).symm
      · rw [split] at among
        rcases List.mem_append.mp among with here | there
        · exact stays.underwent_ofHeld tenure here
        · exact next.driven tenure there
      · rw [split, List.flatMap_append, stays.calls_ofHeld, next.calls]
        rfl

/-! ## No host, no state -/

section

variable {panel : Panel σ} {operation : Operation} {report : Report Error (Panel σ) (Answer σ)}

/-- Only a panel that has its host gets out of the first state. -/
def IsBacked (panel : Panel σ) : Prop :=
  panel.state ≠ .uninitialized → panel.host.isSome = true

theorem Ended.isBacked (ended : Ended panel operation report) (backed : panel.IsBacked) :
    report.state.IsBacked := by
  cases ended with
  | refused | hostless => exact backed
  | completed | stopped | checked => exact fun _ => rfl

theorem serve_isBacked (backed : panel.IsBacked) (request : Request σ) :
    (serve request panel).state.IsBacked := by
  cases request with
  | configure host => exact fun _ => rfl
  | adjust change =>
    intro known
    rw [serve_adjust, Option.isSome_map]
    exact backed known
  | perform operation => exact (ended_perform panel operation).isBacked backed

/-- **No request brings a panel without a host out of the first state**, not even those that reach
    past the panel. -/
theorem serveAll_isBacked (backed : panel.IsBacked) (requests : List (Request σ)) :
    (serveAll panel requests).2.IsBacked := by
  induction requests generalizing panel with
  | nil => exact backed
  | cons request rest ih => exact ih (serve_isBacked backed request)

/-- That there is no host is found out just where the operation is accepted and there is none. -/
theorem Ended.notConfigured_iff (ended : Ended panel operation report) :
    report.outcome = .error .notConfigured ↔
      operation.accepts panel.state = true ∧ panel.host = none := by
  cases ended with
  | refused refused => simp [refused]
  | hostless accepted bare => simp [accepted, bare]
  | completed _ held | stopped _ held => simp [held]
  | @checked host _ held =>
    simp only [held, reduceCtorEq, and_false, iff_false]
    cases (panel.model.isAlive host).outcome <;> nofun

/-- In the first state, where a panel without a host stays, only bringing up is accepted. -/
theorem Ended.notConfigured_iff_of_isBacked (ended : Ended panel operation report)
    (backed : panel.IsBacked) :
    report.outcome = .error .notConfigured ↔ operation = .bringUp ∧ panel.host = none := by
  rw [ended.notConfigured_iff]
  refine and_congr_left fun bare => ?_
  have unknown : panel.state = .uninitialized := by
    by_contra known
    have holds := backed known
    rw [bare] at holds
    cases holds
  rw [unknown]
  cases operation <;> simp [Operation.accepts]

end

/-! ## The account of a session -/

theorem runAll_host_eq_none (panel : Panel σ) (errands : List (Errand σ)) :
    (panel.runAll errands).2.host = none ↔
      panel.host = none ∧ errands.filterMap Errand.host? = [] := by
  induction errands generalizing panel with
  | nil => simp
  | cons errand rest ih =>
    rw [runAll_cons, ih]
    cases errand with
    | handOver host => simp [Errand.request, serve_configure, Errand.host?]
    | perform operation =>
      have same := (ended_perform panel operation).isSome_host
      rw [Errand.request, serve_perform, ← Option.not_isSome_iff_eq_none, same,
        Option.not_isSome_iff_eq_none]
      rfl

/-- What becomes of the hosts that come to a panel, the one that it starts with among them, while it
    does the errands. -/
structure AccountsForHosts (panel : Panel σ) (errands : List (Errand σ)) : Prop where
  came : panel.host.toList ++ errands.filterMap Errand.host? =
    (panel.tenures errands).map Tenure.given
  /-- one was given back for each that came after it, and the last one is held -/
  went : (panel.runAll errands).1.filterMap returned? ++ (panel.runAll errands).2.host.toList =
    (panel.tenures errands).map Tenure.back
  /-- so each that went is one that came: it has its badge, whatever that is -/
  same : ∀ {ι : Type} (badge : σ → ι), KeptByCalls badge →
    ((panel.runAll errands).1.filterMap returned? ++ (panel.runAll errands).2.host.toList).map
        badge =
      (panel.host.toList ++ errands.filterMap Errand.host?).map badge
  /-- and is as the calls of its tenure left it -/
  driven : ∀ tenure ∈ panel.tenures errands, Underwent tenure.given tenure.calls tenure.back
  /-- there were no calls besides -/
  calls : ((panel.runAll errands).1.flatMap fun report => report.quiet.events) =
    (panel.tenures errands).flatMap Tenure.calls
  tended : ∀ operation,
    Tended (panel.runAll errands).2.host (perform operation (panel.runAll errands).2).events
      (perform operation (panel.runAll errands).2).state.host
  /-- a host is exchanged for the one that is held, and nothing else changes, nor is it called -/
  exchanged : ∀ host,
    serve (.configure host) (panel.runAll errands).2 =
      ⟨.ok (.replaced (panel.runAll errands).2.host), [.noted (.configured panel.name)],
        { (panel.runAll errands).2 with host := some host }⟩
  backed : (panel.runAll errands).2.IsBacked
  /-- a host is only missed when a panel is to be brought up to which none ever came -/
  missed_iff : ∀ operation,
    (perform operation (panel.runAll errands).2).outcome = .error .notConfigured ↔
      operation = .bringUp ∧ panel.host = none ∧ errands.filterMap Errand.host? = []

/-- **Every host is accounted for.** A panel starts with a host or without one, and neither the
    answers of its hosts nor the errands are restricted. -/
theorem hosts_are_accounted_for (model : Model) (start : Option σ) (errands : List (Errand σ)) :
    AccountsForHosts { model, host := start } errands := by
  let panel : Panel σ := { model, host := start }
  have balanced : Balanced start [] panel errands := (Stays.start start).balanced errands
  have came := balanced.came
  have went := balanced.went
  have backed : (panel.runAll errands).2.IsBacked :=
    serveAll_isBacked (fun known => absurd rfl known) _
  refine ⟨came.symm, went.symm, fun badge kept => ?_, balanced.driven, balanced.calls.symm,
    fun operation => (ended_perform _ operation).tended, fun host => ?_, backed,
    fun operation => ?_⟩
  · rw [← came, ← went, List.map_map, List.map_map]
    refine List.map_congr_left fun tenure among => ?_
    exact (balanced.driven tenure among).badge_eq kept
  · have same : (panel.runAll errands).2.name = panel.name :=
      congrArg Model.name (serveAll_model panel _)
    rw [serve_configure, same]
  · rw [(ended_perform _ operation).notConfigured_iff_of_isBacked backed, runAll_host_eq_none]

end DsiPanel.Panel
