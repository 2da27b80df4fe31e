import DsiPanel.Host.Bench
import DsiPanel.Proofs.Limits
import DsiPanel.Table.Vendor

/-!
# What a vendor means by a table

A vendor table is decoded once, and from then on nobody looks at a reserved opcode again. The
decoded table is then walked by rules of its own: which unit a wait is asked for in, and how long
a write may be. That the two steps together do what the vendor wrote down is not seen from either.

`Triple.meant?` is what the vendor wrote down, as the action that a triple means, and `obey` goes
through the triples as they come, with the reserved opcodes, and knows nothing of entries.

> **Sending the decoded table is obeying the triples**: the same calls with the same answers, the
> same result and the same host at the end (`send_obeys_triples`).

Both sides of it are brought to a plan. What is left is one triple at a time: the demands of its
entry are the action it means, if it means one (`Triple.demands_of_decode`).
-/

set_option autoImplicit false

namespace DsiPanel.Vendor

/-! ## Obeying triples -/

/-- The action that a triple means. The end of the table means none. -/
def Triple.meant? (urgent : Bool) (triple : Triple) : Option Action :=
  if triple.opcode = 0xFFFC then
    if triple.count ≤ 10 then some (.waitUs (1000 * triple.count.toUInt32))
    else some (.waitMs triple.count.toUInt32)
  else if triple.opcode = 0xFFFB then some (.waitUs triple.count.toUInt32)
  else if triple.opcode = 0xFFFD then none
  else some (.write triple.opcode triple.parameters urgent)

variable {σ : Type} [Host σ]

/-- Ask the host for what each triple means, in order, up to the first fault. -/
def obey (urgent : Bool) : List Triple → σ → Report Fault σ Unit
  | [], host => ⟨.ok (), [], host⟩
  | triple :: rest, host =>
    match triple.meant? urgent with
    | none => obey urgent rest host
    | some action =>
      match Host.act action host with
      | (.ok (), next) => (obey urgent rest next).after [.acted action (.ok ())]
      | (.error fault, next) => ⟨.error fault, [.acted action (.error fault)], next⟩

section

variable {urgent : Bool} {triple : Triple} {rest : List Triple} {host next : σ} {action : Action}

theorem obey_of_none (silent : triple.meant? urgent = none) :
    obey urgent (triple :: rest) host = obey urgent rest host := by
  rw [obey, silent]

theorem obey_of_ok (meant : triple.meant? urgent = some action)
    (accepted : Host.act action host = (.ok (), next)) :
    obey urgent (triple :: rest) host =
      (obey urgent rest next).after [.acted action (.ok ())] := by
  simp only [obey, meant, accepted]

theorem obey_of_error {fault : Fault} (meant : triple.meant? urgent = some action)
    (failed : Host.act action host = (.error fault, next)) :
    obey urgent (triple :: rest) host =
      ⟨.error fault, [.acted action (.error fault)], next⟩ := by
  simp only [obey, meant, failed]

end

/-! ## One triple -/

section

variable {urgent : Bool} {triple : Triple} {entry : Entry}

/-- The entries that triples decode to, each with what its triple must have looked like. -/
theorem Triple.decode_cases (decoded : triple.decode = .ok entry) :
    (triple.opcode = delayOpcode ∧ entry = .delay triple.count.toUInt32) ∨
      (triple.opcode = microDelayOpcode ∧ entry = .microDelay triple.count.toUInt32) ∨
      (triple.opcode = endOpcode ∧ entry = .endMark) ∨
      (¬ IsReserved triple.opcode ∧ triple.parameters.length = triple.count.toNat ∧
        triple.parameters.length ≤ maxParameters ∧
        entry = .write triple.opcode triple.parameters) := by
  by_cases reserved : IsReserved triple.opcode
  · unfold decode at decoded
    split at decoded
    · exact .inl ⟨‹_›, (Except.ok.inj decoded).symm⟩
    split at decoded
    · exact .inr (.inl ⟨‹_›, (Except.ok.inj decoded).symm⟩)
    split at decoded
    · exact .inr (.inr (.inl ⟨‹_›, (Except.ok.inj decoded).symm⟩))
    · exact absurd reserved (by simp [IsReserved, *])
  · rw [decode_of_not_isReserved reserved] at decoded
    split at decoded
    · cases decoded
    rename_i within
    split at decoded
    · cases decoded
    · rename_i counted
      have length : triple.parameters.length = triple.count.toNat := (not_not.mp counted).symm
      refine .inr (.inr (.inr ⟨reserved, length, ?_, (Except.ok.inj decoded).symm⟩))
      rw [length]
      exact Nat.le_of_not_lt within

theorem toUInt32_le_shortDelayMs (count : UInt8) : count.toUInt32 ≤ shortDelayMs ↔ count ≤ 10 := by
  rw [UInt32.le_iff_toNat_le, UInt8.le_iff_toNat_le, UInt8.toNat_toUInt32]
  rfl

/-- **What an entry demands is what its triple means.** -/
theorem Triple.demands_of_decode (decoded : triple.decode = .ok entry) :
    entry.demands urgent = ((triple.meant? urgent).map Demand.ask).toList := by
  rcases decode_cases decoded with ⟨opcode, rfl⟩ | ⟨opcode, rfl⟩ | ⟨opcode, rfl⟩ |
    ⟨plain, -, within, rfl⟩
  · -- The only case in which the walk chooses, and the vendor means the same choice.
    have waits : triple.opcode = 0xFFFC := opcode
    rw [meant?, if_pos waits, Entry.demands, UInt32.mul_comm]
    by_cases short : triple.count ≤ 10
    · rw [if_pos ((toUInt32_le_shortDelayMs _).mpr short), if_pos short]
      rfl
    · rw [if_neg (mt (toUInt32_le_shortDelayMs _).mp short), if_neg short]
      rfl
  · have waits : triple.opcode = 0xFFFB := opcode
    simp [meant?, waits, Entry.demands]
  · have ends : triple.opcode = 0xFFFD := opcode
    simp [meant?, ends, Entry.demands]
  · have notDelay : ¬ triple.opcode = 0xFFFC := fun is => plain (.inl is)
    have notMicroDelay : ¬ triple.opcode = 0xFFFB := fun is => plain (.inr (.inl is))
    have notEnd : ¬ triple.opcode = 0xFFFD := fun is => plain (.inr (.inr is))
    rw [meant?, if_neg notDelay, if_neg notMicroDelay, if_neg notEnd, Entry.demands,
      if_neg (Nat.not_lt.mpr within)]
    rfl

theorem Triple.of_decode_write {opcode : UInt32} {parameters : List UInt8}
    (decoded : triple.decode = .ok (.write opcode parameters)) :
    ¬ IsReserved opcode ∧ triple.opcode = opcode ∧ triple.parameters = parameters ∧
      parameters.length = triple.count.toNat := by
  rcases decode_cases decoded with ⟨-, same⟩ | ⟨-, same⟩ | ⟨-, same⟩ | ⟨plain, counted, -, same⟩
  · cases same
  · cases same
  · cases same
  · cases same
    exact ⟨plain, rfl, rfl, counted⟩

end

/-! ## All triples -/

section

variable {urgent : Bool} {triples : List Triple} {table : Table}

theorem exists_decode_of_mem (accepted : triples.map Triple.decode = table.map .ok) {entry : Entry}
    (among : entry ∈ table) : ∃ triple ∈ triples, triple.decode = .ok entry := by
  have image : (.ok entry : Except Refusal Entry) ∈ triples.map Triple.decode := by
    rw [accepted]
    exact List.mem_map_of_mem among
  exact List.mem_map.mp image

theorem isSendable_of_decode (accepted : triples.map Triple.decode = table.map .ok) :
    table.IsSendable := by
  intro entry among
  obtain ⟨triple, -, decoded⟩ := exists_decode_of_mem accepted among
  exact Triple.isOversized_of_decode decoded

theorem run_plan_eq_obey (accepted : triples.map Triple.decode = table.map .ok) (host : σ) :
    (table.plan urgent).run host = obey urgent triples host := by
  induction triples generalizing table host with
  | nil =>
    cases table with
    | nil => rfl
    | cons => cases accepted
  | cons triple rest ih =>
    cases table with
    | nil => cases accepted
    | cons entry entries =>
      obtain ⟨decoded, acceptedRest⟩ := List.cons.inj accepted
      rw [Table.plan_cons, Triple.demands_of_decode decoded]
      cases meant : triple.meant? urgent with
      | none =>
        rw [obey_of_none meant]
        exact ih acceptedRest host
      | some action =>
        show Plan.run (.ask action :: Table.plan entries urgent) host = _
        rw [Plan.run_cons, Run.bind_apply, Demand.run, Run.act_apply]
        cases answered : Host.act action host with
        | mk answer next =>
          cases answer with
          | ok =>
            rw [obey_of_ok meant answered, ← ih acceptedRest next]
          | error fault => rw [obey_of_error meant answered]

end

/-- **Sending the decoded table is obeying the triples.** No reserved opcode goes out, every write
    is that of a triple with just as many bytes as the triple counts, and a fault is always one
    that the host answered with. -/
theorem send_obeys_triples {triples : List Triple} {table : Table}
    (accepted : triples.map Triple.decode = table.map .ok) (urgent : Bool) (host : σ) :
    (table.send urgent host).quiet = obey urgent triples host ∧
      (∀ {opcode parameters flag answer},
        .acted (.write opcode parameters flag) answer ∈ (table.send urgent host).events →
          ¬ IsReserved opcode ∧ flag = urgent ∧ ∃ triple ∈ triples, triple.opcode = opcode ∧
            triple.parameters = parameters ∧ parameters.length = triple.count.toNat) ∧
      ∀ {fault}, (table.send urgent host).outcome = .error fault →
        ∃ earlier action, (table.send urgent host).calls = earlier ++ [⟨action, .error fault⟩] := by
  refine ⟨?_, fun happened => ?_, fun stopped => ?_⟩
  · rw [← run_plan_eq_obey accepted, ← Table.send_quiet]
    rfl
  · obtain ⟨among, -, same⟩ := Table.writeFrom_of_acted happened
    obtain ⟨triple, given, decoded⟩ := exists_decode_of_mem accepted among
    obtain ⟨plain, opcodes, bytes, counted⟩ := Triple.of_decode_write decoded
    exact ⟨plain, same, triple, given, opcodes, bytes, counted⟩
  · have sendable : .refuse ∉ table.plan urgent :=
      Table.refuse_not_mem_plan.mpr (isSendable_of_decode accepted)
    exact (table.send_carried urgent host).last_of_error stopped sendable

/-- A table with its end marked early, on a host that gives out at the last triple: it has the
    short wait in microseconds and the long one in milliseconds, and the fault is its own. -/
theorem send_obeys_triples_of_fused :
    let triples : List Triple :=
      [⟨0xB9, 3, [0xF1, 0x12, 0x83]⟩, ⟨0xFFFC, 10, [0x01]⟩, ⟨0xFFFD, 7, []⟩, ⟨0xFFFC, 120, []⟩,
        ⟨0x29, 0, []⟩]
    let table : Table :=
      [.write 0xB9 [0xF1, 0x12, 0x83], .delay 10, .endMark, .delay 120, .write 0x29 []]
    let host : Fused := ⟨3, .tooManyParameters⟩
    triples.map Triple.decode = table.map .ok ∧
      (table.send false host).quiet = obey false triples host ∧
      (obey false triples host).actions =
        [.write 0xB9 [0xF1, 0x12, 0x83] false, .waitUs 10000, .waitMs 120, .write 0x29 [] false] ∧
      ∃ earlier action, (table.send false host).calls =
        earlier ++ [⟨action, .error .tooManyParameters⟩] := by
  intro triples table host
  have accepted : triples.map Triple.decode = table.map .ok := by decide
  obtain ⟨same, -, last⟩ := send_obeys_triples accepted false host
  exact ⟨accepted, same, by decide, last (by decide)⟩

end DsiPanel.Vendor
