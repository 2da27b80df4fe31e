import DsiPanel.Datasheet.PixelFormat

/-!
# The settings of the link

Everything the display host has to know about the serial link to the panel, with the registers
that tell whether the panel is well. A setting that a datasheet does not mention is zero, off, or
the first choice.

There is room for `probeSlots` registers to watch, and a slot is used when it says which bytes to
expect. Slots may be left empty anywhere, not only at the end, so the probes of a link are those
of the used slots, in slot order.
-/

set_option autoImplicit false

namespace DsiPanel

/-! ## Mode, lanes and timing -/

/-- How pixels are transferred. -/
inductive LinkMode where
  /-- into the panel's own frame memory -/
  | command
  /-- as video, framed by sync pulses -/
  | syncPulseVideo
  /-- as video, framed by sync events -/
  | syncEventVideo
  /-- as video, in bursts -/
  | burstVideo
  deriving DecidableEq, Repr, Inhabited

/-- How many data lanes the link has, if that is set. -/
inductive LaneCount where
  | unset
  | one
  | two
  | three
  | four
  deriving DecidableEq, Repr, Inhabited

/-- The number of data lanes, zero where none is set. -/
def LaneCount.lanes : LaneCount → UInt8
  | .unset => 0
  | .one => 1
  | .two => 2
  | .three => 3
  | .four => 4

/-- The timing of one direction of a video frame, in lines or in pixels. -/
structure Blanking where
  sync : UInt16 := 0
  backPorch : UInt16 := 0
  frontPorch : UInt16 := 0
  visible : UInt16 := 0
  deriving DecidableEq, Repr, Inhabited

/-- The timing of a video frame. -/
structure Timing where
  vertical : Blanking := {}
  horizontal : Blanking := {}
  deriving DecidableEq, Repr, Inhabited

/-! ## Watching the panel -/

/-- A register, and the bytes it holds while the panel is well. -/
structure Probe where
  register : UInt32 := 0
  expected : List UInt8 := []
  deriving DecidableEq, Repr, Inhabited

/-- A slot is used when there is something to expect. -/
def Probe.isUsed (probe : Probe) : Bool :=
  !probe.expected.isEmpty

/-- How many registers a link can have watched. -/
def probeSlots : Nat := 3

/-! ## The link -/

/-- The settings of the link. -/
structure Link where
  mode : LinkMode := .command
  lanes : LaneCount := .unset
  /-- the longest packet, in bytes -/
  packetSize : UInt16 := 0
  pixelFormat : PixelFormat := {}
  pixelStream : PixelStream := .packed565
  timing : Timing := {}
  /-- whether spread spectrum clocking is off -/
  spreadSpectrumOff : Bool := false
  /-- the clock of the link, in megahertz -/
  clockMHz : UInt16 := 0
  /-- whether the host watches the panel -/
  watched : Bool := false
  /-- whether it does so through the slots below, and not in a way of its own -/
  watchedBySlots : Bool := false
  slots : Vector Probe probeSlots := Vector.replicate probeSlots {}
  deriving DecidableEq, Repr, Inhabited

/-- The probes of the used slots, in slot order. -/
def Link.probes (link : Link) : List Probe :=
  link.slots.toList.filter Probe.isUsed

theorem Link.expected_ne_nil_of_mem_probes {link : Link} {probe : Probe}
    (used : probe ∈ link.probes) : probe.expected ≠ [] := by
  simpa [Probe.isUsed] using (List.mem_filter.mp used).2

end DsiPanel
