import DsiPanel.Proofs.Walk

/-!
# What the journal shows of a walk

The walk of a table notes each entry before it does anything about it, and so does the walk of a
script with its steps. So the journal says how far a walk got, and more than that: its lines stand
between the calls on the host in a way that shows which call was made for which entry.

`Entry.Leaves` and `Step.Leaves` say what one attempt leaves among the events: a line, and behind it
the call or the warning, if there is one. `Traced` puts attempts one behind the other, under indices
that count every entry, up to the end of the walk or the first attempt that failed. That is all that
a walk leaves.

> **The lines of a walk are those of the entries it came to, in order, and each stands between the
> calls for the entries before it and its own** (`trace_shows_progress`).

Lines are shown with their severity, which is how a reader of the journal tells the course of a walk
from its one warning.
-/

set_option autoImplicit false

namespace DsiPanel

open Journal

variable {σ : Type}

/-! ## Lines as they are read -/

/-- The journal line of an event that is one, with how much it matters. -/
def Event.rated? (event : Event) : Option (Severity × Line) :=
  event.line?.map fun line => (line.severity, line)

def journalOf (events : List Event) : List (Severity × Line) :=
  events.filterMap Event.rated?

def Report.journal {ε α : Type} (report : Report ε σ α) : List (Severity × Line) :=
  journalOf report.events

/-- The index that a line names, if it is about an entry of a table. -/
def Event.index? : Event → Option Nat
  | .noted (.reached index _) => some index
  | _ => none

/-! ## One attempt -/

/-- What the attempt at an entry leaves among the events, and how it went. -/
inductive Entry.Leaves (urgent : Bool) (index : Nat) :
    Entry → List Event → Except Fault Unit → Prop where
  | called {entry : Entry} {action : Action} (asks : entry.primitive urgent = .ok (some action))
      (answer : Except Fault Unit) :
      Leaves urgent index entry [.noted (.reached index entry), .acted action answer] answer
  | marked : Leaves urgent index .endMark [.noted (.reached index .endMark)] (.ok ())
  | overlong {opcode : UInt32} {parameters : List UInt8} (long : 64 < parameters.length) :
      Leaves urgent index (.write opcode parameters)
        [.noted (.reached index (.write opcode parameters)),
          .noted (.oversized opcode parameters.length)]
        (.error .tooManyParameters)

/-- What the attempt at a step leaves among the events, and how it went. -/
inductive Step.Leaves : Step → List Event → Except Fault Unit → Prop where
  | called (step : Step) (answer : Except Fault Unit) :
      Leaves step [.noted (.attempted step), .acted step.action answer] answer

/-- The lines that an entry gives the journal if a walk comes to it. -/
def Entry.journal (index : Nat) : Entry → List (Severity × Line)
  | .write opcode parameters =>
    (.trace, .reached index (.write opcode parameters)) ::
      if 64 < parameters.length then [(.warn, .oversized opcode parameters.length)] else []
  | entry => [(.trace, .reached index entry)]

def Step.journal (step : Step) : List (Severity × Line) :=
  [(.trace, .attempted step)]

theorem Entry.Leaves.journalOf_eq {urgent : Bool} {index : Nat} {entry : Entry}
    {events : List Event} {ending : Except Fault Unit}
    (leaves : entry.Leaves urgent index events ending) :
    journalOf events = entry.journal index := by
  cases leaves with
  | marked => rfl
  | overlong long =>
    rw [journal, if_pos long]
    rfl
  | called asks =>
    cases entry with
    | delay | microDelay | endMark => rfl
    | write opcode parameters =>
      rw [primitive] at asks
      split at asks
      · rename_i within
        rw [journal, if_neg (Nat.not_lt.mpr within)]
        rfl
      · cases asks

theorem Entry.Leaves.index_eq {urgent : Bool} {index : Nat} {entry : Entry} {events : List Event}
    {ending : Except Fault Unit} (leaves : entry.Leaves urgent index events ending) :
    events.filterMap Event.index? = [index] := by
  cases leaves <;> rfl

theorem Step.Leaves.journalOf_eq {step : Step} {events : List Event} {ending : Except Fault Unit}
    (leaves : step.Leaves events ending) : journalOf events = step.journal := by
  cases leaves
  rfl

theorem Step.Leaves.length_callsOf {step : Step} {events : List Event}
    {ending : Except Fault Unit} (leaves : step.Leaves events ending) :
    (callsOf events).length = 1 := by
  cases leaves
  rfl

/-! ## Attempts in order -/

/-- **What attempts in order leave**, from an index on: the walk came to so many items, every
    attempt but the last went well, and unless the last one failed there is none left. -/
inductive Traced {ι : Type} (leaves : Nat → ι → List Event → Except Fault Unit → Prop) :
    (index : Nat) → List ι → (reach : Nat) → List Event → Except Fault Unit → Prop where
  | finished {index : Nat} : Traced leaves index [] 0 [] (.ok ())
  | passed {index reach : Nat} {item : ι} {rest : List ι} {events later : List Event}
      {ending : Except Fault Unit} (left : leaves index item events (.ok ()))
      (onward : Traced leaves (index + 1) rest reach later ending) :
      Traced leaves index (item :: rest) (reach + 1) (events ++ later) ending
  | stopped {index : Nat} {item : ι} {rest : List ι} {events : List Event} {fault : Fault}
      (left : leaves index item events (.error fault)) :
      Traced leaves index (item :: rest) 1 events (.error fault)

namespace Traced

variable {ι : Type} {leaves : Nat → ι → List Event → Except Fault Unit → Prop}
  {index reach : Nat} {item : ι} {items rest : List ι} {events : List Event}
  {ending : Except Fault Unit}

theorem reach_of_ok (traced : Traced leaves index items reach events ending)
    (complete : ending = .ok ()) : reach = items.length := by
  induction traced with
  | finished => rfl
  | passed _ _ ih => rw [ih complete, List.length_cons]
  | stopped => cases complete

/-- A walk that stopped did so at the last item it came to, and its last events are what the attempt
    at that item left. -/
theorem last_of_error (traced : Traced leaves index items reach events ending) {fault : Fault}
    (failed : ending = .error fault) :
    ∃ before item after earlier left, items = before ++ item :: after ∧
      reach = before.length + 1 ∧ events = earlier ++ left ∧
      leaves (index + before.length) item left (.error fault) := by
  induction traced with
  | finished => cases failed
  | @passed _ _ first _ events _ _ _ _ ih =>
    obtain ⟨before, item, after, earlier, left, rfl, rfl, rfl, last⟩ := ih failed
    refine ⟨first :: before, item, after, events ++ earlier, left, rfl, rfl,
      (List.append_assoc events earlier left).symm, ?_⟩
    rw [List.length_cons, Nat.add_comm before.length, ← Nat.add_assoc]
    exact last
  | @stopped _ item rest left _ last =>
    cases failed
    exact ⟨[], item, rest, [], left, rfl, rfl, rfl, last⟩

/-- What is picked from each attempt is picked from all, item by item. -/
theorem filterMap_eq {κ : Type} {pick : Event → Option κ} (shown : Nat → ι → List κ)
    (shows : ∀ {index item events ending}, leaves index item events ending →
      events.filterMap pick = shown index item)
    (traced : Traced leaves index items reach events ending) :
    events.filterMap pick =
      ((items.zipIdx index).take reach).flatMap fun (item, index) => shown index item := by
  induction traced with
  | finished => rfl
  | passed left _ ih =>
    rw [List.filterMap_append, shows left, ih, List.zipIdx_cons, List.take_succ_cons,
      List.flatMap_cons]
  | stopped left => simp [shows left, List.zipIdx_cons]

theorem length_filterMap_eq {κ : Type} {pick : Event → Option κ}
    (single : ∀ {index item events ending}, leaves index item events ending →
      (events.filterMap pick).length = 1)
    (traced : Traced leaves index items reach events ending) :
    (events.filterMap pick).length = reach := by
  induction traced with
  | finished => rfl
  | passed left _ ih =>
    rw [List.filterMap_append, List.length_append, single left, ih, Nat.add_comm]
  | stopped left => exact single left

/-- If each attempt names its index, all of them count up. -/
theorem filterMap_eq_range {pick : Event → Option Nat}
    (names : ∀ {index item events ending}, leaves index item events ending →
      events.filterMap pick = [index])
    (traced : Traced leaves index items reach events ending) :
    events.filterMap pick = List.range' index reach := by
  induction traced with
  | finished => rfl
  | passed left _ ih =>
    rw [List.filterMap_append, names left, ih, List.range'_succ]
    rfl
  | stopped left => exact names left

/-- An attempt, and then what is attempted if it went well. -/
theorem of_bind {attempt walk : Run Fault σ Unit} {host : σ}
    (left : leaves index item (attempt host).events (attempt host).outcome)
    (onward : ∃ reach, Traced leaves (index + 1) rest reach (walk (attempt host).state).events
      (walk (attempt host).state).outcome) :
    ∃ reach, Traced leaves index (item :: rest) reach ((attempt >>= fun _ => walk) host).events
      ((attempt >>= fun _ => walk) host).outcome := by
  cases went : (attempt host).outcome with
  | ok =>
    rw [went] at left
    obtain ⟨reach, traced⟩ := onward
    rw [Run.bind_of_ok went]
    exact ⟨reach + 1, .passed left traced⟩
  | error fault =>
    rw [went] at left
    rw [Run.bind_of_error went]
    exact ⟨1, .stopped left⟩

end Traced

/-! ## Walks are attempts in order -/

section

variable [Host σ]

theorem Entry.carryOut_of_ask {urgent : Bool} {entry : Entry} {action : Action}
    (asks : entry.demands urgent = [.ask action]) :
    (entry.carryOut urgent : Run Fault σ Unit) = Run.act action := by
  cases entry with
  | delay milliseconds =>
    by_cases short : milliseconds ≤ shortDelayMs
    · rw [demands, if_pos short] at asks
      cases asks
      rw [carryOut, if_pos short]
    · rw [demands, if_neg short] at asks
      cases asks
      rw [carryOut, if_neg short]
  | microDelay microseconds =>
    cases asks
    rfl
  | endMark => cases asks
  | write opcode parameters =>
    by_cases long : maxParameters < parameters.length
    · rw [demands, if_pos long] at asks
      cases asks
    · rw [demands, if_neg long] at asks
      cases asks
      rw [carryOut, if_neg long]

/-- The attempt at an entry, as a walk makes it. -/
def Entry.tried (urgent : Bool) (index : Nat) (entry : Entry) : Run Fault σ Unit := do
  Run.note (.reached index entry)
  entry.carryOut urgent

theorem Entry.leaves_of_asks {urgent : Bool} {entry : Entry} {action : Action}
    (asks : entry.primitive urgent = .ok (some action)) (index : Nat) (host : σ) :
    entry.Leaves urgent index (entry.tried urgent index host).events
      (entry.tried urgent index host).outcome := by
  have asked : entry.demands urgent = [.ask action] := by rw [demands_eq, asks]
  rw [tried, carryOut_of_ask asked]
  exact .called asks (Host.act action host).1

theorem Entry.leaves_tried (urgent : Bool) (index : Nat) (entry : Entry) (host : σ) :
    entry.Leaves urgent index (entry.tried urgent index host).events
      (entry.tried urgent index host).outcome := by
  cases entry with
  | endMark => exact .marked
  | microDelay microseconds => exact leaves_of_asks rfl index host
  | delay milliseconds =>
    by_cases short : milliseconds.toNat ≤ 10
    · exact leaves_of_asks (by rw [primitive, if_pos short]) index host
    · exact leaves_of_asks (by rw [primitive, if_neg short]) index host
  | write opcode parameters =>
    by_cases within : parameters.length ≤ 64
    · exact leaves_of_asks (by rw [primitive, if_pos within]) index host
    · have long : maxParameters < parameters.length := Nat.lt_of_not_le within
      rw [tried, carryOut, if_pos long]
      exact .overlong long

theorem Table.sendFrom_traced (urgent : Bool) (index : Nat) (table : Table) (host : σ) :
    ∃ reach, Traced (Entry.Leaves urgent) index table reach
      (sendFrom urgent index table host).events (sendFrom urgent index table host).outcome := by
  induction table generalizing index host with
  | nil => exact ⟨0, .finished⟩
  | cons entry rest ih =>
    rw [sendFrom_cons, ← bind_assoc]
    exact Traced.of_bind (entry.leaves_tried urgent index host) (ih (index + 1) _)

theorem Script.play_traced (index : Nat) (script : Script) (host : σ) :
    ∃ reach, Traced (fun _ => Step.Leaves) index script reach (play script host).events
      (play script host).outcome := by
  induction script generalizing index host with
  | nil => exact ⟨0, .finished⟩
  | cons step rest ih =>
    rw [play_cons, ← bind_assoc]
    exact Traced.of_bind (.called step (Host.act step.action host).1) (ih (index + 1) _)

end

/-! ## How far a walk got -/

/-- The events of a walk over the items show that it came to so many of them. -/
structure ShowsProgress {ι : Type} (leaves : Nat → ι → List Event → Except Fault Unit → Prop)
    (shown : Nat → ι → List (Severity × Line)) (items : List ι) (report : Report Fault σ Unit)
    (reach : Nat) : Prop where
  /-- the events are those of the attempts, one attempt behind the other, and there are no others -/
  traced : Traced leaves 0 items reach report.events report.outcome
  /-- the journal has the lines of the items that the walk came to, in order -/
  journal : report.journal =
    (items.zipIdx.take reach).flatMap fun (item, index) => shown index item
  /-- a walk that is complete came to every item -/
  complete : report.outcome = .ok () → reach = items.length
  /-- a walk that stopped came to the item that failed, which is the last one in the events, and to
      none behind it -/
  stopped : ∀ fault, report.outcome = .error fault →
    ∃ before item after earlier left, items = before ++ item :: after ∧
      reach = before.length + 1 ∧ report.events = earlier ++ left ∧
      leaves before.length item left (.error fault)

theorem Traced.showsProgress {ι : Type}
    {leaves : Nat → ι → List Event → Except Fault Unit → Prop}
    {shown : Nat → ι → List (Severity × Line)} {items : List ι} {report : Report Fault σ Unit}
    {reach : Nat} (traced : Traced leaves 0 items reach report.events report.outcome)
    (shows : ∀ {index item events ending}, leaves index item events ending →
      journalOf events = shown index item) : ShowsProgress leaves shown items report reach := by
  refine ⟨traced, traced.filterMap_eq shown shows, traced.reach_of_ok, fun fault failed => ?_⟩
  simpa using traced.last_of_error failed

/-- **The journal shows how far a walk got.** Of a table, the lines that name an index are those of
    the entries it came to, counted from nought, and a script has one line for each call. -/
theorem trace_shows_progress [Host σ] (host : σ) :
    (∀ (table : Table) (urgent : Bool), ∃ reach,
      ShowsProgress (Entry.Leaves urgent) Entry.journal table (table.send urgent host) reach ∧
        (table.send urgent host).events.filterMap Event.index? = List.range reach) ∧
      ∀ script : Script, ∃ reach,
        ShowsProgress (fun _ => Step.Leaves) (fun _ => Step.journal) script (script.play host)
            reach ∧
          (script.play host).calls.length = reach := by
  refine ⟨fun table urgent => ?_, fun script => ?_⟩
  · obtain ⟨reach, traced⟩ := table.sendFrom_traced urgent 0 host
    refine ⟨reach, traced.showsProgress Entry.Leaves.journalOf_eq, ?_⟩
    rw [List.range_eq_range']
    exact traced.filterMap_eq_range Entry.Leaves.index_eq
  · obtain ⟨reach, traced⟩ := script.play_traced 0 host
    exact ⟨reach, traced.showsProgress Step.Leaves.journalOf_eq,
      traced.length_filterMap_eq Step.Leaves.length_callsOf⟩

end DsiPanel
