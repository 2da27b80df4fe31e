import Mathlib.Algebra.GroupWithZero.Nat
import DsiPanel.Host.Bench
import DsiPanel.Proofs.History
import DsiPanel.Proofs.VendorMeaning
import DsiPanel.Proofs.Walk

/-!
# The time between two writes

A panel cares how long it is left alone between two register writes. In a table that is the sum of
the waits between them; for the host it is the sum of what it is asked to wait, which comes in two
units, one of them for short waits only. Nothing is gained or lost between the two.

Both sides are lists: `stretches` cuts a list at its writes and adds up the time of every piece,
with the piece before the first write and the one after the last. That the lists are equal says
that the pieces stand in the same places and that each takes the same time.

> **Every wait of a table is asked for in full, and in its place**: `waits_are_conserved`.

Time is counted in microseconds, in natural numbers, so no sum and no product can wrap.
-/

set_option autoImplicit false

namespace DsiPanel

variable {σ : Type}

/-! ## Stretches -/

section

variable {α β : Type} {cuts : α → Bool} {time : α → Nat} {item : α} {items : List α}

/-- The time of each piece that a list is cut into. What cuts belongs to no piece. -/
def stretches (cuts : α → Bool) (time : α → Nat) (items : List α) : List Nat :=
  (items.splitOnP cuts).map fun piece => (piece.map time).sum

theorem stretches_cons :
    stretches cuts time (item :: items) =
      if cuts item then 0 :: stretches cuts time items
      else (stretches cuts time items).modifyHead (time item + ·) := by
  unfold stretches
  rw [List.splitOnP_cons_eq_if_modifyHead]
  cases cuts item with
  | true => simp
  | false => cases items.splitOnP cuts <;> simp

/-- What neither cuts nor takes time may as well not be there. -/
theorem stretches_cons_of_idle (whole : cuts item = false) (idle : time item = 0) :
    stretches cuts time (item :: items) = stretches cuts time items := by
  rw [stretches_cons, whole, idle]
  cases stretches cuts time items <;> simp

/-- Two lists are cut alike when their items are, one by one. -/
theorem stretches_cons_congr {cuts' : β → Bool} {time' : β → Nat} {item' : β} {items' : List β}
    (cut : cuts item = cuts' item') (same : time item = time' item')
    (later : stretches cuts time items = stretches cuts' time' items') :
    stretches cuts time (item :: items) = stretches cuts' time' (item' :: items') := by
  rw [stretches_cons, stretches_cons, cut, same, later]

end

/-! ## What is declared and what is asked for -/

/-- The time an action asks for, in microseconds. -/
def Action.duration : Action → Nat
  | .waitMs milliseconds => 1000 * milliseconds.toNat
  | .waitUs microseconds => microseconds.toNat
  | _ => 0

/-- The time an entry declares, in microseconds. -/
def Entry.duration : Entry → Nat
  | .delay milliseconds => 1000 * milliseconds.toNat
  | .microDelay microseconds => microseconds.toNat
  | _ => 0

/-- The time the count of a triple declares, in microseconds. -/
def Vendor.Triple.duration (triple : Triple) : Nat :=
  if triple.opcode = 0xFFFC then 1000 * triple.count.toNat
  else if triple.opcode = 0xFFFB then triple.count.toNat
  else 0

/-- The time between the writes that a host was asked for. -/
def waitsOf (calls : List Call) : List Nat :=
  stretches (fun call => call.action.isWrite) (fun call => call.action.duration) calls

/-- The time between the writes of a table. -/
def Table.waits (table : Table) : List Nat :=
  stretches Entry.isWrite Entry.duration table

/-- The time between the triples that are registers. -/
def Vendor.waits (triples : List Triple) : List Nat :=
  stretches (fun triple => !decide (IsReserved triple.opcode)) Triple.duration triples

/-! ## One entry -/

/-- The walk multiplies only where the product stays far below the bound. -/
theorem toNat_mul_of_short {milliseconds : UInt32} (short : milliseconds ≤ shortDelayMs) :
    (milliseconds * 1000).toNat = 1000 * milliseconds.toNat := by
  have limit : milliseconds.toNat ≤ 10 := UInt32.le_iff_toNat_le.mp short
  rw [UInt32.toNat_mul]
  show milliseconds.toNat * 1000 % 2 ^ 32 = 1000 * milliseconds.toNat
  omega

section

variable {urgent : Bool} {entry : Entry} {action : Action}

theorem Entry.of_primitive_some (asks : entry.primitive urgent = .ok (some action)) :
    action.isWrite = entry.isWrite ∧ action.duration = entry.duration := by
  cases entry with
  | endMark => cases asks
  | microDelay microseconds =>
    cases asks
    exact ⟨rfl, rfl⟩
  | delay milliseconds =>
    by_cases short : milliseconds.toNat ≤ 10
    · rw [primitive, if_pos short] at asks
      cases asks
      refine ⟨rfl, ?_⟩
      -- The only product: it has to be as large in the word as it is.
      show (UInt32.ofNat (1000 * milliseconds.toNat)).toNat = 1000 * milliseconds.toNat
      have bound : 1000 * milliseconds.toNat < 2 ^ 32 := by omega
      exact UInt32.toNat_ofNat_of_lt' bound
    · rw [primitive, if_neg short] at asks
      cases asks
      exact ⟨rfl, rfl⟩
  | write opcode parameters =>
    rw [primitive] at asks
    split at asks
    · cases asks
      exact ⟨rfl, rfl⟩
    · cases asks

theorem Entry.of_primitive_none (silent : entry.primitive urgent = .ok none) :
    entry = .endMark := by
  cases entry with
  | endMark => rfl
  | microDelay => cases silent
  | delay | write =>
    rw [primitive] at silent
    split at silent <;> cases silent

variable [Host σ] {host : σ} {rest : Table} {later : List Call}

/-- **One entry**: an attempt that goes well adds to the waits of the calls after it what the entry
    adds to the waits of the table after it. -/
theorem Entry.waitsOf_attempt (went : (entry.attempt urgent host).outcome = .ok ())
    (same : waitsOf later = Table.waits rest) :
    waitsOf ((entry.attempt urgent host).calls ++ later) = Table.waits (entry :: rest) := by
  unfold attempt at went ⊢
  cases asked : entry.primitive urgent with
  | error fault =>
    rw [asked] at went
    cases went
  | ok action? =>
    cases action? with
    | none =>
      have unmarked : Table.waits (.endMark :: rest) = Table.waits rest :=
        stretches_cons_of_idle rfl rfl
      rw [of_primitive_none asked, unmarked]
      exact same
    | some action =>
      obtain ⟨writes, time⟩ := of_primitive_some asked
      exact stretches_cons_congr writes time same

end

/-! ## All entries -/

section

variable [Host σ] {urgent : Bool} {table : Table} {host : σ}

theorem Sent.waitsOf_eq {events : List Event} {last : σ}
    (sent : Sent urgent table host events last) : waitsOf (callsOf events) = table.waits := by
  induction sent with
  | nil => rfl
  | cons went _ ih =>
    rw [callsOf_append]
    exact Entry.waitsOf_attempt went ih

theorem Table.waitsOf_send (complete : (table.send urgent host).outcome = .ok ()) :
    waitsOf (table.send urgent host).calls = table.waits := by
  obtain ⟨events, last, sent, calls⟩ := sent_of_ok complete
  rw [calls]
  exact sent.waitsOf_eq

end

/-! ## A table that was decoded -/

namespace Vendor

theorem Triple.of_decode {triple : Triple} {entry : Entry} (decoded : triple.decode = .ok entry) :
    entry.isWrite = !decide (IsReserved triple.opcode) ∧ entry.duration = triple.duration := by
  rcases decode_cases decoded with ⟨opcode, rfl⟩ | ⟨opcode, rfl⟩ | ⟨opcode, rfl⟩ |
    ⟨plain, -, -, rfl⟩
  · simp [Entry.isWrite, Entry.duration, IsReserved, duration, opcode, delayOpcode]
  · simp [Entry.isWrite, Entry.duration, IsReserved, duration, opcode, microDelayOpcode]
  · simp [Entry.isWrite, Entry.duration, IsReserved, duration, opcode, endOpcode]
  · have notDelay : ¬ triple.opcode = 0xFFFC := fun is => plain (.inl is)
    have notMicroDelay : ¬ triple.opcode = 0xFFFB := fun is => plain (.inr (.inl is))
    simp [Entry.isWrite, Entry.duration, plain, duration, notDelay, notMicroDelay]

theorem waits_eq_of_decode {triples : List Triple} {table : Table}
    (decoded : triples.map Triple.decode = table.map .ok) : table.waits = waits triples := by
  induction triples generalizing table with
  | nil =>
    cases table with
    | nil => rfl
    | cons => cases decoded
  | cons triple rest ih =>
    cases table with
    | nil => cases decoded
    | cons entry entries =>
      obtain ⟨decodedFirst, decodedRest⟩ := List.cons.inj decoded
      obtain ⟨writes, time⟩ := Triple.of_decode decodedFirst
      exact stretches_cons_congr writes time (ih decodedRest)

end Vendor

/-! ## Waits are conserved -/

/-- **Every wait of a table is asked for in full, and in its place.** A table that stopped asked for
    every wait before the entry it stopped at, no short wait is multiplied beyond its word, and
    what a decoded table declares is what the counts of its triples do. -/
theorem waits_are_conserved [Host σ] (table : Table) (urgent : Bool) (host : σ) :
    ((table.send urgent host).outcome = .ok () →
        waitsOf (table.send urgent host).calls = table.waits) ∧
      (∀ fault, (table.send urgent host).outcome = .error fault →
        ∃ before entry, StopsAt urgent table host fault before entry ∧
          waitsOf (before.send urgent host).calls = before.waits) ∧
      (∀ milliseconds : UInt32, milliseconds ≤ shortDelayMs →
        (milliseconds * 1000).toNat = 1000 * milliseconds.toNat) ∧
      ∀ triples, triples.map Vendor.Triple.decode = table.map .ok →
        table.waits = Vendor.waits triples := by
  refine ⟨Table.waitsOf_send, fun fault stopped => ?_, fun _ => toNat_mul_of_short,
    fun triples => Vendor.waits_eq_of_decode⟩
  obtain ⟨before, entry, stops⟩ := Table.stopsAt_of_error stopped
  exact ⟨before, entry, stops, Table.waitsOf_send stops.sent⟩

/-- A short and a long wait with an end mark between them come to one sum, on a host that accepts
    the whole table and on one that gives out at the last write. -/
theorem waits_of_marked_table :
    let triples : List Vendor.Triple :=
      [⟨0x28, 0, []⟩, ⟨0xFFFC, 10, []⟩, ⟨0xFFFD, 0, []⟩, ⟨0xFFFC, 120, []⟩, ⟨0xFFFB, 40, []⟩,
        ⟨0x10, 0, []⟩]
    let table : Table :=
      [.write 0x28 [], .delay 10, .endMark, .delay 120, .microDelay 40, .write 0x10 []]
    let fused : Fused := ⟨4, .transport⟩
    triples.map Vendor.Triple.decode = table.map .ok ∧
      Vendor.waits triples = [0, 130040, 0] ∧
      waitsOf (table.send true (⟨⟩ : Willing)).calls = Vendor.waits triples ∧
      ∃ before entry, StopsAt true table fused .transport before entry ∧
        waitsOf (before.send true fused).calls = before.waits := by
  intro triples table fused
  have decoded : triples.map Vendor.Triple.decode = table.map .ok := by decide
  obtain ⟨complete, -, -, declared⟩ := waits_are_conserved table true (⟨⟩ : Willing)
  obtain ⟨-, stopped, -, -⟩ := waits_are_conserved table true fused
  exact ⟨decoded, by decide, (complete (by decide)).trans (declared triples decoded),
    stopped .transport (by decide)⟩

end DsiPanel
