import DsiPanel.Host.Bench
import DsiPanel.Proofs.Walk

/-!
# Tables that can stand for one another

Two tables that are written differently may be the same to every host. An end mark is nothing to
it, a short wait is the wait in microseconds that it is asked for as, and nothing is left of what
stands behind a write that is too long. `Table.normalForm` takes just these differences away.

> **Tables are interchangeable just if they have the same normal form**: `interchangeable_iff`.

From right to left it is a matter of plans: a normal form is a plan up to its first refusal
(`Table.cut_plan`), and no host is asked for more (`Plan.run_cut`). From left to right one host is
enough to tell two normal forms apart, and it is the host that accepts everything, since such a
host lets the plan be heard up to its first refusal (`Plan.heard_run`).
-/

set_option autoImplicit false

namespace DsiPanel

variable {σ : Type}

/-! ## Normal forms -/

/-- One item of a normal form. -/
inductive Mark where
  | write (opcode : UInt32) (parameters : List UInt8)
  | delay (milliseconds : UInt32)
  | microDelay (microseconds : UInt32)
  /-- a write was too long, and it does not matter what it was or what came after it -/
  | stop
  deriving DecidableEq, Repr

/-- What a table is to a host. -/
def Table.normalForm : Table → List Mark
  | [] => []
  | .endMark :: rest => normalForm rest
  | .delay milliseconds :: rest =>
    if milliseconds.toNat ≤ 10 then .microDelay (1000 * milliseconds) :: normalForm rest
    else .delay milliseconds :: normalForm rest
  | .microDelay microseconds :: rest => .microDelay microseconds :: normalForm rest
  | .write opcode parameters :: rest =>
    if 64 < parameters.length then [.stop] else .write opcode parameters :: normalForm rest

def Mark.demand (urgent : Bool) : Mark → Demand
  | .write opcode parameters => .ask (.write opcode parameters urgent)
  | .delay milliseconds => .ask (.waitMs milliseconds)
  | .microDelay microseconds => .ask (.waitUs microseconds)
  | .stop => .refuse

/-- No two items demand the same, so a normal form can be read off the demands. -/
theorem Mark.demand_injective (urgent : Bool) : Function.Injective (Mark.demand urgent) := by
  intro first second same
  cases first <;> cases second <;> simp_all [demand]

/-! ## Plans up to the first refusal -/

def Plan.cut : Plan → Plan
  | [] => []
  | .ask action :: rest => .ask action :: cut rest
  | .refuse :: _ => [.refuse]

/-- What stands behind a refusal is demanded of no host. -/
theorem Plan.run_cut [Host σ] (plan : Plan) : (plan.cut.run : Run Fault σ Unit) = plan.run := by
  induction plan with
  | nil => rfl
  | cons demand rest ih =>
    cases demand with
    | ask action => rw [cut, run_cons, run_cons, ih]
    | refuse => rfl

theorem Table.cut_plan (urgent : Bool) (table : Table) :
    Plan.cut (table.plan urgent) = table.normalForm.map (Mark.demand urgent) := by
  induction table with
  | nil => rfl
  | cons entry rest ih =>
    rw [plan_cons, Entry.demands_eq]
    cases entry with
    | endMark => exact ih
    | microDelay microseconds => simp [Entry.primitive, normalForm, Plan.cut, Mark.demand, ih]
    | delay milliseconds =>
      by_cases short : milliseconds.toNat ≤ 10
      · simp [Entry.primitive, normalForm, short, Plan.cut, Mark.demand, ih]
      · simp [Entry.primitive, normalForm, short, Plan.cut, Mark.demand, ih]
    | write opcode parameters =>
      by_cases within : parameters.length ≤ 64
      · have admitted : ¬ 64 < parameters.length := Nat.not_lt.mpr within
        simp [Entry.primitive, normalForm, within, admitted, Plan.cut, Mark.demand, ih]
      · have refused : 64 < parameters.length := Nat.lt_of_not_le within
        simp [Entry.primitive, normalForm, within, refused, Plan.cut, Mark.demand]

/-! ## A host that hears the plan -/

/-- What can be told of a plan from the outside: the actions that were asked for, and whether there
    was an end to it before its end. -/
def Report.heard (report : Report Fault σ Unit) : Plan :=
  report.calls.map (fun call => .ask call.action) ++
    match report.outcome with
    | .ok () => []
    | .error _ => [.refuse]

/-- Where nothing fails, a plan is heard up to its first refusal. -/
theorem Plan.heard_run (plan : Plan) (host : Willing) : (plan.run host).heard = plan.cut := by
  induction plan generalizing host with
  | nil => rfl
  | cons demand rest ih =>
    cases demand with
    | refuse => rfl
    | ask action =>
      have accepted : ((Demand.ask action).run host).outcome = .ok () := rfl
      rw [run_cons, Run.bind_of_ok accepted, cut, ← ih ((Demand.ask action).run host).state]
      rfl

theorem Table.normalForm_eq_of_willing {first second : Table} {urgent : Bool} {host : Willing}
    (same : (first.send urgent host).quiet = (second.send urgent host).quiet) :
    first.normalForm = second.normalForm := by
  rw [quiet_send, quiet_send] at same
  have heard := congrArg Report.heard same
  rw [Plan.heard_run, Plan.heard_run, cut_plan, cut_plan] at heard
  exact (List.map_inj_right fun _ _ equal => Mark.demand_injective urgent equal).mp heard

/-! ## Interchangeable tables -/

/-- **Tables are interchangeable just if they have the same normal form**: with either urgency, the
    same result, the same calls with the same answers, and the same host in the end. -/
theorem interchangeable_iff (first second : Table) (urgent : Bool) :
    (∀ (σ : Type) [Host σ] (host : σ),
      (first.send urgent host).quiet = (second.send urgent host).quiet) ↔
      first.normalForm = second.normalForm := by
  constructor
  · intro same
    exact Table.normalForm_eq_of_willing (same Willing ⟨⟩)
  · intro same σ _ host
    have plans : Plan.cut (first.plan urgent) = Plan.cut (second.plan urgent) := by
      rw [Table.cut_plan, Table.cut_plan, same]
    calc (first.send urgent host).quiet
        = (first.plan urgent).run host := first.quiet_send urgent host
      _ = (second.plan urgent).run host := by rw [← Plan.run_cut, plans, Plan.run_cut]
      _ = (second.send urgent host).quiet := (second.quiet_send urgent host).symm

/-- A wait of eleven milliseconds is not the same wait in microseconds, and one of ten is. -/
example :
    Table.normalForm [.delay 10, .endMark] = Table.normalForm [.microDelay 10000] ∧
      Table.normalForm [.delay 11] ≠ Table.normalForm [.microDelay 11000] := by
  decide

end DsiPanel
