import Mathlib.Data.List.Forall2
import DsiPanel.Proofs.Account

/-!
# What a liveness check finds

A check goes over the probes until one of them settles it. A probe lets the check go on in one
case: its bytes fit the scratch buffer, the host reports at least as many as are expected, and
those are what the buffer holds. In any other case it settles the check, and then it matters which
case it is: no room, a fault of the host, too few bytes, or other bytes.

`Passes` and `Decides` are these cases, said of a single read and its answer, and `Examined` says
that the probes before the deciding one passed and that there was no further read.

> **The first probe that does not pass decides a check**, whatever the host stores and whatever it
> reports: `checkLiveness_decides`.

A host that stores nothing and reports enough passes if the buffer already held the expected bytes.
This file says what a check answers, and not that the answer is about the panel.
-/

set_option autoImplicit false

namespace DsiPanel

variable {σ : Type}

/-! ## One probe -/

/-- The ways a probe can settle a check, each with the read it took, if it took one. -/
inductive Probe.Decides (probe : Probe) : List ReadCall → Except Fault Bool → Prop where
  | overlong (long : maxParameters < probe.expected.length) :
      Decides probe [] (.error .bufferTooSmall)
  | failed {read : ReadCall} {fault : Fault} (within : probe.expected.length ≤ maxParameters)
      (isOf : read.IsOf probe) (answered : read.answer = .error fault) :
      Decides probe [read] (.error fault)
  | short {read : ReadCall} {count : Nat} (within : probe.expected.length ≤ maxParameters)
      (isOf : read.IsOf probe) (answered : read.answer = .ok count)
      (below : count < probe.expected.length) : Decides probe [read] (.ok false)
  | differs {read : ReadCall} {count : Nat} (within : probe.expected.length ≤ maxParameters)
      (isOf : read.IsOf probe) (answered : read.answer = .ok count)
      (other : read.filled ≠ probe.expected) : Decides probe [read] (.ok false)

/-! ## All probes -/

/-- **The verdict on the probes, from the reads that were made.** Either every probe passed, or
    one of them decided, all before it passed, and nothing was read after it. -/
inductive Examined (probes : List Probe) (reads : List ReadCall) : Except Fault Bool → Prop where
  | alive (passed : List.Forall₂ ReadCall.Passes reads probes) : Examined probes reads (.ok true)
  | decided {before after : List Probe} {probe : Probe} {earlier last : List ReadCall}
      {verdict : Except Fault Bool} (split : probes = before ++ probe :: after)
      (made : reads = earlier ++ last) (passed : List.Forall₂ ReadCall.Passes earlier before)
      (decides : probe.Decides last verdict) : Examined probes reads verdict

/-- A probe that settles the check did not pass, and there is only one way to settle it. -/
theorem Probe.Decides.not_passes {probe : Probe} {read : ReadCall} {later : List ReadCall}
    {verdict : Except Fault Bool} (decides : probe.Decides (read :: later) verdict) :
    ¬ read.Passes probe := by
  rintro ⟨-, -, ⟨count, reported, enough⟩, filled⟩
  cases decides with
  | failed _ _ answered =>
    rw [reported] at answered
    cases answered
  | short _ _ answered below =>
    rw [reported] at answered
    cases answered
    exact absurd enough (Nat.not_le_of_lt below)
  | differs _ _ _ other => exact other filled

theorem Probe.Decides.unique {probe : Probe} {reads : List ReadCall}
    {first second : Except Fault Bool} (one : probe.Decides reads first)
    (other : probe.Decides reads second) : first = second := by
  cases one with
  | overlong => cases other; rfl
  | failed _ _ answered | short _ _ answered | differs _ _ answered =>
    cases other <;> simp_all

namespace Examined

variable {probe : Probe} {rest : List Probe} {reads : List ReadCall} {verdict : Except Fault Bool}

theorem nil_iff : Examined [] reads verdict ↔ reads = [] ∧ verdict = .ok true := by
  constructor
  · intro examined
    cases examined with
    | alive passed => exact ⟨List.forall₂_nil_right_iff.mp passed, rfl⟩
    | decided split => simp at split
  · rintro ⟨rfl, rfl⟩
    exact .alive .nil

/-- Either the first probe decides, or it passes and the others are examined. -/
theorem cons_iff : Examined (probe :: rest) reads verdict ↔ probe.Decides reads verdict ∨
    ∃ read later, reads = read :: later ∧ read.Passes probe ∧ Examined rest later verdict := by
  constructor
  · intro examined
    cases examined with
    | alive passed =>
      cases passed with
      | cons passes others => exact .inr ⟨_, _, rfl, passes, .alive others⟩
    | @decided before _ _ _ _ _ split made passed decides =>
      -- The probe that decides is the first one, or one of the others.
      cases before with
      | nil =>
        cases passed
        cases split
        rw [made]
        exact .inl decides
      | cons first before =>
        cases passed with
        | cons passes others =>
          cases split
          exact .inr ⟨_, _, made, passes, .decided rfl rfl others decides⟩
  · rintro (decides | ⟨read, later, rfl, passes, examined⟩)
    · exact .decided (rfl : _ = [] ++ probe :: rest) (rfl : _ = [] ++ reads) .nil decides
    · cases examined with
      | alive passed => exact .alive (.cons passes passed)
      | @decided before _ _ earlier _ _ split made passed decides =>
        rw [split, made, ← List.cons_append, ← List.cons_append]
        exact .decided rfl rfl (.cons passes passed) decides

/-- The reads settle the verdict. -/
theorem unique {probes : List Probe} {first second : Except Fault Bool}
    (one : Examined probes reads first) (other : Examined probes reads second) :
    first = second := by
  induction probes generalizing reads with
  | nil => rw [(nil_iff.mp one).2, (nil_iff.mp other).2]
  | cons probe rest ih =>
    rcases cons_iff.mp one with decides | ⟨read, later, rfl, passes, examined⟩
    · rcases cons_iff.mp other with same | ⟨read, later, rfl, passes, -⟩
      · exact decides.unique same
      · exact absurd passes decides.not_passes
    · rcases cons_iff.mp other with decides | ⟨_, _, same, -, others⟩
      · exact absurd passes decides.not_passes
      · cases same
        exact ih examined others

end Examined

section

variable [Host σ]

theorem Scratch.check_examined (panel : String) (scratch : Scratch) (probes : List Probe)
    (host : σ) :
    Examined probes (scratch.check panel probes host).reads
      (scratch.check panel probes host).outcome := by
  induction probes generalizing scratch host with
  | nil => exact .alive .nil
  | cons probe rest ih =>
    have taken := scratch.check_taken panel probe rest host
    generalize scratch.check panel (probe :: rest) host = report at taken ⊢
    refine Examined.cons_iff.mpr ?_
    cases taken with
    | overlong long => exact .inl (.overlong long)
    | failed within isOf answered => exact .inl (.failed within isOf answered)
    | passed passes => exact .inr ⟨_, _, rfl, passes, ih _ _⟩
    | @differs read count next within isOf answered _ other =>
      by_cases enough : probe.expected.length ≤ count
      · refine .inl (.differs within isOf answered fun same => other ?_)
        rw [same, List.take_of_length_le enough]
      · exact .inl (.short within isOf answered (Nat.lt_of_not_le enough))

end

/-! ## What is compared lies in the buffer -/

namespace Scratch

/-- The first `n` bytes of the buffer, if it has so many. -/
def slice? (scratch : Scratch) (n : Nat) : Option (List UInt8) :=
  if n ≤ maxParameters then some (scratch.toList.take n) else none

theorem take_store {n : Nat} (scratch : Scratch) (filled : Vector UInt8 n)
    (fits : n ≤ maxParameters) : (scratch.store filled).toList.take n = filled.toList := by
  apply List.ext_getElem
  · rw [List.length_take, Vector.length_toList, Vector.length_toList]
    exact Nat.min_eq_left fits
  · intro i here there
    have within : i < n := by simpa using there
    simpa using scratch.getElem_store_of_lt filled within (Nat.lt_of_lt_of_le within fits)

/-- A count that was reported, however large, is cut to what was read, and that lies inside. -/
theorem slice?_store {n : Nat} (scratch : Scratch) (filled : Vector UInt8 n)
    (fits : n ≤ maxParameters) (count : Nat) :
    (scratch.store filled).slice? (min count n) = some (filled.toList.take count) := by
  have inside : min count n ≤ maxParameters := Nat.le_trans (Nat.min_le_right count n) fits
  rw [slice?, if_pos inside, ← List.take_take, take_store scratch filled fits]

end Scratch

/-! ## A check of a panel -/

namespace Panel

/-- What a check of a panel that displays returns, and what it took to find out. -/
structure Finds [Host σ] (model : Model) (host : σ)
    (report : Report Error (Panel σ) Bool) : Prop where
  /-- the result is the one verdict on the used slots that the reads admit -/
  verdict : ∃ verdict, report.outcome = verdict.mapError .stopped ∧
    ∀ other, Examined model.datasheet.link.probes report.reads other ↔ other = verdict
  /-- the host was asked for nothing but these reads -/
  calls : report.calls = []
  /-- the answers are those of the host, and the panel is left as it was but for them -/
  tended : ∃ last, Underwent host report.events last ∧
    report.state = { model, host := some last, state := .active }
  /-- the bytes that are compared lie in the scratch buffer, whatever count is reported -/
  inside : ∀ probe ∈ model.datasheet.link.probes, probe.expected.length ≤ maxParameters →
    ∀ (scratch : Scratch) (filled : Vector UInt8 probe.expected.length) (count : Nat),
      (scratch.store filled).slice? (min count probe.expected.length) =
        some (filled.toList.take count)

/-- **The first probe that does not pass decides a check of a panel that displays**, for every model
    and every host. -/
theorem checkLiveness_decides [Host σ] (model : Model) (host : σ) :
    Finds model host (checkLiveness { model, host := some host, state := .active }) := by
  rw [checkLiveness_of_host rfl rfl]
  have examined := Scratch.check_examined model.name .cleared model.datasheet.link.probes host
  refine ⟨⟨(model.isAlive host).outcome, rfl, fun other => ?_⟩, ?_,
    ⟨(model.isAlive host).state, ?_, rfl⟩, ?_⟩
  · constructor
    · intro same
      exact same.unique examined
    · rintro rfl
      exact examined
  · exact model.calls_isAlive host
  · exact model.isAlive_recounts host
  · intro probe _ fits scratch filled count
    exact scratch.slice?_store filled fits count

end Panel

end DsiPanel
