import Mathlib.Data.List.Forall2
import DsiPanel.Proofs.Carry
import DsiPanel.Proofs.Uniform

/-!
# Hosts that are lent

A host can be lent, and the loan lent again, as often as one likes (`LentTimes`). Whoever holds the
loan calls it as he would call the host itself, reads of one byte included, for which the host may
have a way of its own.

> **A loan behaves as the host does, at any depth** (`loans_behave_as_their_owner`): calls, tables,
> scripts and panels give the same answers and leave the host in the same state.

`Lends` is what that rests on, and it says no more than that each call is handed on. What runs on
the two hosts is then the same by congruence, and a panel is followed operation by operation.
-/

set_option autoImplicit false

namespace DsiPanel

variable {σ τ : Type}

/-! ## Loans -/

/-- What is lent out hands each call on to what it was lent by: it answers as that does, and what is
    left is lent out again. -/
structure Lends [Host σ] [Host τ] (lend : σ → τ) (owner : τ → σ) : Prop where
  owner_lend : ∀ host, owner (lend host) = host
  lend_owner : ∀ loan, lend (owner loan) = loan
  act : ∀ action host,
    Host.act action (lend host) = ((Host.act action host).1, lend (Host.act action host).2)
  readInto : ∀ {n : Nat} register (buffer : Vector UInt8 n) host,
    Host.readInto register buffer (lend host) =
      ((Host.readInto register buffer host).1, lend (Host.readInto register buffer host).2)
  readByte : ∀ register host,
    Host.readByte register (lend host) =
      ((Host.readByte register host).1, lend (Host.readByte register host).2)

namespace Lends

variable [Host σ] [Host τ]

theorem refl : Lends (id : σ → σ) id :=
  ⟨fun _ => rfl, fun _ => rfl, fun _ _ => rfl, fun _ _ _ => rfl, fun _ _ => rfl⟩

/-- What is lent out may be lent once more. -/
theorem lent {lend : σ → τ} {owner : τ → σ} (lends : Lends lend owner) :
    Lends (fun host => (⟨lend host⟩ : Lent τ)) (fun loan => owner loan.owner) where
  owner_lend := lends.owner_lend
  lend_owner loan := congrArg Lent.mk (lends.lend_owner loan.owner)
  act action host := by
    show Lent.through (Host.act action) ⟨lend host⟩ = _
    rw [Lent.through, lends.act]
  readInto register buffer host := by
    show Lent.through (Host.readInto register buffer) ⟨lend host⟩ = _
    rw [Lent.through, lends.readInto]
  readByte register host := by
    show Lent.through (Host.readByte register) ⟨lend host⟩ = _
    rw [Lent.through, lends.readByte]

end Lends

/-- A host that was lent so many times over. -/
def LentTimes (σ : Type) : (depth : Nat) → Type
  | 0 => σ
  | depth + 1 => Lent (LentTimes σ depth)

namespace LentTimes

instance instHost [Host σ] : (depth : Nat) → Host (LentTimes σ depth)
  | 0 => inferInstanceAs (Host σ)
  | depth + 1 =>
    have := instHost depth
    inferInstanceAs (Host (Lent (LentTimes σ depth)))

def lend : (depth : Nat) → σ → LentTimes σ depth
  | 0, host => host
  | depth + 1, host => (⟨lend depth host⟩ : Lent (LentTimes σ depth))

/-- The host at the bottom of the loans. -/
def owner : (depth : Nat) → LentTimes σ depth → σ
  | 0, host => host
  | depth + 1, loan => owner depth (Lent.owner loan)

theorem lends [Host σ] : ∀ depth : Nat, Lends (lend depth : σ → LentTimes σ depth) (owner depth)
  | 0 => Lends.refl
  | depth + 1 => (lends depth).lent

end LentTimes

/-! ## Calls one by one -/

/-- One call on a host. -/
inductive Primitive where
  | act (action : Action)
  | readInto {n : Nat} (register : UInt32) (buffer : Vector UInt8 n)
  | readByte (register : UInt32)

/-- What the caller gets back. A buffer comes back whole, whatever was reported of it. -/
inductive Reply where
  | acted (answer : Except Fault Unit)
  | filled (count : Except Fault Nat) (buffer : List UInt8)
  | byte (answer : Except Fault UInt8)
  deriving DecidableEq

def Primitive.call [Host σ] : Primitive → σ → Reply × σ
  | .act action, host =>
    let (answer, after) := Host.act action host
    (.acted answer, after)
  | .readInto register buffer, host =>
    let (reading, after) := Host.readInto register buffer host
    (.filled reading.count reading.buffer.toList, after)
  | .readByte register, host =>
    let (answer, after) := Host.readByte register host
    (.byte answer, after)

/-- Make the calls in order. There is no stopping at a fault. -/
def callAll [Host σ] : List Primitive → σ → List Reply × σ
  | [], host => ([], host)
  | primitive :: rest, host =>
    let (reply, after) := primitive.call host
    let (replies, last) := callAll rest after
    (reply :: replies, last)

section

variable [Host σ] [Host τ] {lend : σ → τ} {owner : τ → σ}

theorem Lends.call (lends : Lends lend owner) (primitive : Primitive) (host : σ) :
    primitive.call (lend host) = ((primitive.call host).1, lend (primitive.call host).2) := by
  cases primitive with
  | act action => rw [Primitive.call, lends.act]; rfl
  | readInto register buffer => rw [Primitive.call, lends.readInto]; rfl
  | readByte register => rw [Primitive.call, lends.readByte]; rfl

theorem Lends.callAll (lends : Lends lend owner) (primitives : List Primitive) (host : σ) :
    DsiPanel.callAll primitives (lend host) =
      ((DsiPanel.callAll primitives host).1, lend (DsiPanel.callAll primitives host).2) := by
  induction primitives generalizing host with
  | nil => rfl
  | cons primitive rest ih =>
    simp only [DsiPanel.callAll, lends.call, ih]

end

/-! ## Runs -/

section

variable [Host σ] [Host τ] {lend : σ → τ} {owner : τ → σ}

/-- **What runs on a host runs on the loan alike.** -/
theorem Lends.congruence (lends : Lends lend owner) :
    Run.Congruence Eq Eq fun _ run image => Run.Carries id lend run image :=
  Run.Carries.congruence id id (fun _ => rfl) (fun _ _ => rfl) lends.act

theorem Lends.keepsProbes (lends : Lends lend owner) :
    KeepsProbes Eq fun _ run image => Run.Carries id lend run image where
  mismatch _ _ _ _ := rfl
  read register buffer host := by
    rw [Run.read_apply, lends.readInto]
    rfl

theorem Lends.send (lends : Lends lend owner) (table : Table) (urgent : Bool) :
    Run.Carries id lend (table.send urgent) (table.send urgent) :=
  lends.congruence.send (.of_refl Eq.refl Eq.refl) table urgent

theorem Lends.play (lends : Lends lend owner) (script : Script) :
    Run.Carries id lend script.play script.play :=
  lends.congruence.play (List.forall₂_same.mpr fun _ _ => ⟨rfl, rfl⟩)

theorem Lends.sequence (lends : Lends lend owner) (model : Model) (direction : Direction) :
    Run.Carries id lend (model.sequence direction) (model.sequence direction) :=
  lends.congruence.sequence (.of_refl Eq.refl Eq.refl model) direction

theorem Lends.isAlive (lends : Lends lend owner) (model : Model) :
    Run.Carries id lend model.isAlive model.isAlive :=
  lends.congruence.isAlive lends.keepsProbes (.of_refl Eq.refl Eq.refl model)

end

/-! ## Panels -/

namespace Panel

/-- The panel, with the host that it holds lent out to it. -/
def lent (lend : σ → τ) (panel : Panel σ) : Panel τ :=
  { model := panel.model, host := panel.host.map lend, state := panel.state }

def Answer.lent (lend : σ → τ) : Answer σ → Answer τ
  | .done => .done
  | .alive well => .alive well
  | .replaced previous => .replaced (previous.map lend)
  | .adjusted found => .adjusted found

/-- The request as it is made with loans. A change is made to the host itself. -/
def Request.lent (lend : σ → τ) (owner : τ → σ) : Request σ → Request τ
  | .configure host => .configure (lend host)
  | .adjust change => .adjust fun loan => lend (change (owner loan))
  | .perform operation => .perform operation

/-- The report, with loans for all hosts in it. -/
def lentReport (lend : σ → τ) (report : Report Error (Panel σ) (Answer σ)) :
    Report Error (Panel τ) (Answer τ) :=
  ⟨report.outcome.map (Answer.lent lend), report.events, report.state.lent lend⟩

theorem carrier_lent (lend : σ → τ) : Carrier id lend (Panel.lent lend) :=
  ⟨fun _ => rfl, fun _ => rfl, fun _ _ _ => rfl, fun _ => rfl, fun _ _ => rfl, fun _ _ => rfl,
    fun _ _ _ => rfl⟩

theorem map_lent {α : Type} {lend : σ → τ} {run : Run Error (Panel σ) α}
    {image : Run Error (Panel τ) α} (answer : α → Answer σ) (imageAnswer : α → Answer τ)
    (carries : Run.Carries id (Panel.lent lend) run image)
    (same : ∀ value, imageAnswer value = (answer value).lent lend) (panel : Panel σ) :
    (imageAnswer <$> image) (panel.lent lend) = lentReport lend ((answer <$> run) panel) := by
  rw [Run.map_apply, Run.map_apply, carries panel, lentReport]
  cases ended : (run panel).outcome <;> simp [Report.carried, ended, Except.map, same]

section

variable [Host σ] [Host τ] {lend : σ → τ} {owner : τ → σ}

theorem perform_lent (lends : Lends lend owner) (operation : Operation) (panel : Panel σ) :
    perform operation (panel.lent lend) = lentReport lend (perform operation panel) := by
  have carrier : Carrier id lend (Panel.lent lend) := carrier_lent lend
  have sequence (panel : Panel σ) := lends.sequence panel.model
  have isAlive (panel : Panel σ) := lends.isAlive panel.model
  have silent : ∀ _ : Unit, (Answer.done : Answer τ) = Answer.done.lent lend := fun _ => rfl
  cases operation with
  | bringUp => exact map_lent _ _ (carrier.bringUp sequence) silent panel
  | suspend => exact map_lent _ _ (carrier.suspend sequence) silent panel
  | resume => exact map_lent _ _ (carrier.resume sequence) silent panel
  | checkLiveness =>
    exact map_lent .alive .alive (carrier.checkLiveness isAlive) (fun _ => rfl) panel

theorem serve_lent (lends : Lends lend owner) (request : Request σ) (panel : Panel σ) :
    serve (request.lent lend owner) (panel.lent lend) = lentReport lend (serve request panel) := by
  cases request with
  | configure host => rfl
  | adjust change =>
    rw [Request.lent, serve_adjust, serve_adjust]
    cases held : panel.host <;>
      simp [lentReport, lent, Answer.lent, Except.map, held, lends.owner_lend]
  | perform operation => exact perform_lent lends operation panel

theorem serveAll_lent (lends : Lends lend owner) (panel : Panel σ) (requests : List (Request σ)) :
    (panel.lent lend).serveAll (requests.map (Request.lent lend owner)) =
      ((panel.serveAll requests).1.map (lentReport lend),
        (panel.serveAll requests).2.lent lend) :=
  serveAll_carried (fun _ => rfl) (serve_lent lends) panel requests

end

end Panel

/-! ## Any depth -/

/-- Whatever is done with the loan is as if it was done with the host that was lent. -/
structure ActsAsOwner [Host σ] [Host τ] (lend : σ → τ) (owner : τ → σ) : Prop where
  /-- every loan is one of a host, and the host can be had back -/
  owner_lend : ∀ host, owner (lend host) = host
  lend_owner : ∀ loan, lend (owner loan) = loan
  /-- calls are answered alike, each after the others -/
  calls : ∀ primitives host, callAll primitives (lend host) =
    ((callAll primitives host).1, lend (callAll primitives host).2)
  /-- tables and scripts end alike and report the same events, and the host is lent out again -/
  tables : ∀ (table : Table) urgent host,
    table.send urgent (lend host) = (table.send urgent host).carried id lend
  scripts : ∀ (script : Script) host, script.play (lend host) = (script.play host).carried id lend
  /-- a panel that is driven through loans reports the same and is in the same states; the hosts
      that come, that go and that are held at the end are the same ones, lent out -/
  panels : ∀ (panel : Panel σ) requests,
    (panel.lent lend).serveAll (requests.map (Panel.Request.lent lend owner)) =
      ((panel.serveAll requests).1.map (Panel.lentReport lend),
        (panel.serveAll requests).2.lent lend)

theorem Lends.actsAsOwner [Host σ] [Host τ] {lend : σ → τ} {owner : τ → σ}
    (lends : Lends lend owner) : ActsAsOwner lend owner where
  owner_lend := lends.owner_lend
  lend_owner := lends.lend_owner
  calls := lends.callAll
  tables := lends.send
  scripts := lends.play
  panels := Panel.serveAll_lent lends

/-- **A loan behaves as the host does, at any depth**, whatever kind of host it is. -/
theorem loans_behave_as_their_owner [Host σ] (depth : Nat) :
    ActsAsOwner (LentTimes.lend depth : σ → LentTimes σ depth) (LentTimes.owner depth) :=
  (LentTimes.lends depth).actsAsOwner

end DsiPanel
