import DsiPanel.Panel.Basic

/-!
# Asking whether a panel is well

A liveness check goes over the probes of the model in order. Each register is read into as many
bytes as are expected of it, and the first that does not hold them ends the check with the answer
no.

All reads of one check share a scratch buffer, which is cleared once, before the first. A read is
given the front of it and leaves its bytes there, so a host that stores fewer bytes than it
reports lets through **what an earlier read left behind**. The count a host reports is not trusted
beyond the expected length, and a count below it makes the register differ, since then a byte is
missing.
-/

set_option autoImplicit false

namespace DsiPanel

/-! ## The scratch buffer -/

/-- The buffer that the reads of one check share. It holds as much as one register write can. -/
abbrev Scratch : Type :=
  Vector UInt8 maxParameters

namespace Scratch

/-- The buffer before the first read. -/
def cleared : Scratch := Vector.replicate maxParameters 0

/-- The first `n` bytes, which are given to a read. -/
def window (scratch : Scratch) (n : Nat) (fits : n ≤ maxParameters) : Vector UInt8 n :=
  Vector.ofFn fun i => scratch[i.val]

/-- The buffer once a read has left its bytes at the front. -/
def store {n : Nat} (scratch : Scratch) (filled : Vector UInt8 n) : Scratch :=
  Vector.ofFn fun i => if within : i.val < n then filled[i.val] else scratch[i]

end Scratch

/-! ## The check -/

section

variable {σ : Type} [Host σ]

/-- Check the probes in order, reading into the given scratch buffer. The panel is named because the
    journal says whose register differs. -/
def Scratch.check (panel : String) : Scratch → List Probe → Run Fault σ Bool
  | _, [] => pure true
  | scratch, probe :: rest =>
    if fits : probe.expected.length ≤ maxParameters then do
      let (count, filled) ← Run.read probe.register (scratch.window probe.expected.length fits)
      -- A count beyond the window is cut to it here, since nothing lies behind.
      let found := filled.toList.take count
      if found = probe.expected then
        (scratch.store filled).check panel rest
      else
        Run.note (.mismatch panel probe.register found probe.expected)
        pure false
    else Run.fail .bufferTooSmall

/-- Check all probes of the model. -/
def Model.isAlive (model : Model) : Run Fault σ Bool :=
  Scratch.cleared.check model.name model.datasheet.link.probes

/-- Ask whether the panel is well. Whatever the answer is, and even if a read fails, the state of
    the panel stays as it is. -/
def Panel.checkLiveness : Run Panel.Error (Panel σ) Bool :=
  Panel.guarded .checkLiveness fun panel =>
    match panel.host with
    | none => ⟨.error .notConfigured, [], panel⟩
    | some host =>
      let report := panel.model.isAlive host
      ⟨report.outcome.mapError .stopped, report.events, { panel with host := some report.state }⟩

/-! ## What a check comes down to -/

namespace Panel

variable {panel : Panel σ}

theorem checkLiveness_of_not_accepts
    (refused : Operation.checkLiveness.accepts panel.state = false) :
    checkLiveness panel = ⟨.error (.invalidTransition panel.state .checkLiveness), [], panel⟩ :=
  guarded_of_not_accepts refused _

theorem checkLiveness_of_no_host
    (accepted : Operation.checkLiveness.accepts panel.state = true) (bare : panel.host = none) :
    checkLiveness panel = ⟨.error .notConfigured, [], panel⟩ :=
  (guarded_of_accepts accepted _).trans (by simp [bare])

theorem checkLiveness_of_host {host : σ}
    (accepted : Operation.checkLiveness.accepts panel.state = true)
    (held : panel.host = some host) :
    checkLiveness panel =
      ⟨(panel.model.isAlive host).outcome.mapError .stopped, (panel.model.isAlive host).events,
        { panel with host := some (panel.model.isAlive host).state }⟩ :=
  (guarded_of_accepts accepted _).trans (by simp [held])

end Panel

end

/-! ## The bytes of the scratch buffer -/

namespace Scratch

theorem getElem_window (scratch : Scratch) {n i : Nat} (fits : n ≤ maxParameters) (within : i < n) :
    (scratch.window n fits)[i] = scratch[i] := by
  simp [window]

theorem getElem_store_of_lt {n i : Nat} (scratch : Scratch) (filled : Vector UInt8 n)
    (within : i < n) (fits : i < maxParameters) : (scratch.store filled)[i] = filled[i] := by
  simp [store, within]

end Scratch

end DsiPanel
