import Mathlib.Data.List.Forall2
import DsiPanel.Panel.Liveness
import DsiPanel.Proofs.Plan

/-!
# What every sequence is made of

A sequence gives a value, stops at a fault, adds a line to the journal, asks its host for an action
or for a register, or is one such run after the other. There is nothing else in it, so a relation
between runs that holds of these holds of sequences: that is a `Run.Congruence`.

The two runs need not be of the same sequence, nor on hosts of one kind. Which line goes with which
and which action with which is up to whoever states the relation, and the runs are related as far
as their lines and their actions go together: for a table, `KeepsTables`, and for a model and its
scripts, `Model.Corresponds`. Where a property of one run is meant, the relation leaves the second
run out, and an action goes with itself if it has the property.
-/

set_option autoImplicit false

namespace DsiPanel

variable {σ τ : Type} [Host σ] [Host τ]

/-! ## What goes together -/

section

variable (line : Journal.Line → Journal.Line → Prop) (action : Action → Action → Prop)

/-- The relation holds of the runs that sequences are made of, and of one run after the other if it
    holds of both. Only a check reads, so reads are left to `KeepsProbes`. -/
structure Run.Congruence (related : (α : Type) → Run Fault σ α → Run Fault τ α → Prop) : Prop where
  pure : ∀ {α : Type} (value : α), related α (Pure.pure value) (Pure.pure value)
  fail : ∀ {α : Type} fault, related α (Run.fail fault) (Run.fail fault)
  note : ∀ {first second}, line first second → related Unit (Run.note first) (Run.note second)
  act : ∀ {first second}, action first second → related Unit (Run.act first) (Run.act second)
  bind : ∀ {α β : Type} {first : Run Fault σ α} {image : Run Fault τ α}
    {next : α → Run Fault σ β} {imageNext : α → Run Fault τ β}, related α first image →
    (∀ value, related β (next value) (imageNext value)) →
    related β (first >>= next) (image >>= imageNext)

/-- What the walk of a table notes and what it asks for goes with itself. -/
structure KeepsTables : Prop where
  reached : ∀ index entry, line (.reached index entry) (.reached index entry)
  oversized : ∀ register length, line (.oversized register length) (.oversized register length)
  waitMs : ∀ milliseconds, action (.waitMs milliseconds) (.waitMs milliseconds)
  waitUs : ∀ microseconds, action (.waitUs microseconds) (.waitUs microseconds)
  write : ∀ opcode parameters urgent,
    action (.write opcode parameters urgent) (.write opcode parameters urgent)

/-- What a check notes goes with itself, and so does what it reads. -/
structure KeepsProbes (related : (α : Type) → Run Fault σ α → Run Fault τ α → Prop) : Prop where
  mismatch : ∀ panel register found expected,
    line (.mismatch panel register found expected) (.mismatch panel register found expected)
  read : ∀ {n : Nat} register (buffer : Vector UInt8 n),
    related _ (Run.read register buffer) (Run.read register buffer)

/-- The one step may stand where the other does. -/
structure Step.Corresponds (step image : Step) : Prop where
  noted : line (.attempted step) (.attempted image)
  asked : action step.action image.action

/-- The models differ in the steps of their scripts at most, and those go together. -/
structure Model.Corresponds (model image : Model) : Prop where
  name : image.name = model.name
  datasheet : image.datasheet = model.datasheet
  initTable : image.initTable = model.initTable
  suspendTable : image.suspendTable = model.suspendTable
  tables : KeepsTables line action
  powerOn : List.Forall₂ (Step.Corresponds line action) model.powerOn image.powerOn
  powerOff : List.Forall₂ (Step.Corresponds line action) model.powerOff image.powerOff

end

section

variable {line : Journal.Line → Journal.Line → Prop} {action : Action → Action → Prop}

theorem KeepsTables.of_refl (lines : ∀ noted, line noted noted)
    (actions : ∀ asked, action asked asked) : KeepsTables line action :=
  ⟨fun _ _ => lines _, fun _ _ => lines _, fun _ => actions _, fun _ => actions _,
    fun _ _ _ => actions _⟩

theorem Model.Corresponds.of_refl (lines : ∀ noted, line noted noted)
    (actions : ∀ asked, action asked asked) (model : Model) :
    Model.Corresponds line action model model :=
  ⟨rfl, rfl, rfl, rfl, .of_refl lines actions,
    List.forall₂_same.mpr fun _ _ => ⟨lines _, actions _⟩,
    List.forall₂_same.mpr fun _ _ => ⟨lines _, actions _⟩⟩

end

/-! ## Sequences -/

namespace Run.Congruence

variable {line : Journal.Line → Journal.Line → Prop} {action : Action → Action → Prop}
  {related : (α : Type) → Run Fault σ α → Run Fault τ α → Prop}

theorem play (congruence : Congruence line action related) {script image : Script}
    (steps : List.Forall₂ (Step.Corresponds line action) script image) :
    related Unit script.play image.play := by
  induction steps with
  | nil => exact congruence.pure ()
  | cons corresponds _ ih =>
    rw [Script.play_cons, Script.play_cons]
    exact congruence.bind (congruence.note corresponds.noted) fun _ =>
      congruence.bind (congruence.act corresponds.asked) fun _ => ih

theorem carryOut (congruence : Congruence line action related) (keeps : KeepsTables line action)
    (urgent : Bool) (entry : Entry) :
    related Unit (entry.carryOut urgent) (entry.carryOut urgent) := by
  cases entry with
  | delay milliseconds =>
    rw [Entry.carryOut, Entry.carryOut]
    split
    · exact congruence.act (keeps.waitUs _)
    · exact congruence.act (keeps.waitMs _)
  | microDelay microseconds => exact congruence.act (keeps.waitUs _)
  | endMark => exact congruence.pure ()
  | write opcode parameters =>
    rw [Entry.carryOut, Entry.carryOut]
    split
    · exact congruence.bind (congruence.note (keeps.oversized _ _)) fun _ => congruence.fail _
    · exact congruence.act (keeps.write _ _ _)

theorem sendFrom (congruence : Congruence line action related) (keeps : KeepsTables line action)
    (urgent : Bool) (index : Nat) (table : Table) :
    related Unit (table.sendFrom urgent index) (table.sendFrom urgent index) := by
  induction table generalizing index with
  | nil => exact congruence.pure ()
  | cons entry rest ih =>
    rw [Table.sendFrom_cons, Table.sendFrom_cons]
    exact congruence.bind (congruence.note (keeps.reached index entry)) fun _ =>
      congruence.bind (congruence.carryOut keeps urgent entry) fun _ => ih (index + 1)

theorem send (congruence : Congruence line action related) (keeps : KeepsTables line action)
    (table : Table) (urgent : Bool) : related Unit (table.send urgent) (table.send urgent) :=
  congruence.sendFrom keeps urgent 0 table

theorem sequence (congruence : Congruence line action related) {model image : Model}
    (corresponds : Model.Corresponds line action model image) (direction : Direction) :
    related Unit (model.sequence direction) (image.sequence direction) := by
  cases direction with
  | up =>
    rw [Model.sequence, Model.sequence, Model.up, Model.up, corresponds.initTable]
    exact congruence.bind (congruence.play corresponds.powerOn) fun _ =>
      congruence.send corresponds.tables _ _
  | down =>
    rw [Model.sequence, Model.sequence, Model.down, Model.down, corresponds.suspendTable]
    exact congruence.bind (congruence.send corresponds.tables _ _) fun _ =>
      congruence.play corresponds.powerOff

theorem check (congruence : Congruence line action related) (keeps : KeepsProbes line related)
    (panel : String) (scratch : Scratch) (probes : List Probe) :
    related Bool (scratch.check panel probes) (scratch.check panel probes) := by
  induction probes generalizing scratch with
  | nil => exact congruence.pure true
  | cons probe rest ih =>
    rw [Scratch.check, Scratch.check]
    split
    · refine congruence.bind (keeps.read _ _) fun reading => ?_
      obtain ⟨count, filled⟩ := reading
      dsimp only
      split
      · exact ih _
      · exact congruence.bind (congruence.note (keeps.mismatch _ _ _ _)) fun _ =>
          congruence.pure false
    · exact congruence.fail _

theorem isAlive (congruence : Congruence line action related) (keeps : KeepsProbes line related)
    {model image : Model} (corresponds : Model.Corresponds line action model image) :
    related Bool model.isAlive image.isAlive := by
  rw [Model.isAlive, Model.isAlive, corresponds.name, corresponds.datasheet]
  exact congruence.check keeps model.name .cleared model.datasheet.link.probes

end Run.Congruence

end DsiPanel
