import DsiPanel.Proofs.VendorMeaning

/-!
# The vendor format, exactly

What an entry does once it is decoded is settled elsewhere. This file is about decoding alone:
which triples are accepted, why the others are not, which entries the format has room for, and
what is lost on the way to them.

The format is written down as a relation, `Spells`, with a constructor for each kind of triple. A
triple decodes to an entry just if it spells it (`Triple.decode_eq_ok_iff`), and the rest is read
off the relation by cases. What is lost is what `AgreesWith` does not mention: the parameters
behind a reserved opcode, and the count of an end mark. The count of a write is not lost, for it
is the number of its parameters.

There are three ways to write an entry down. `decode` answers, `require` insists, and
`Entry.checked` takes no count that could be wrong. `format_is_exact` has them side by side.
-/

set_option autoImplicit false

namespace DsiPanel.Vendor

/-! ## The format -/

/-- Which triples spell which entries. -/
inductive Triple.Spells : Triple → Entry → Prop where
  | delay {count : UInt8} {parameters : List UInt8} {milliseconds : UInt32}
      (lasts : milliseconds.toNat = count.toNat) :
      Spells ⟨0xFFFC, count, parameters⟩ (.delay milliseconds)
  | microDelay {count : UInt8} {parameters : List UInt8} {microseconds : UInt32}
      (lasts : microseconds.toNat = count.toNat) :
      Spells ⟨0xFFFB, count, parameters⟩ (.microDelay microseconds)
  | endMark {count : UInt8} {parameters : List UInt8} :
      Spells ⟨0xFFFD, count, parameters⟩ .endMark
  | write {opcode : UInt32} {count : UInt8} {parameters : List UInt8}
      (plain : ¬ IsReserved opcode) (within : count.toNat ≤ 64)
      (counted : count.toNat = parameters.length) :
      Spells ⟨opcode, count, parameters⟩ (.write opcode parameters)

def Triple.IsWellFormed (triple : Triple) : Prop :=
  (triple.opcode = 0xFFFC ∨ triple.opcode = 0xFFFB ∨ triple.opcode = 0xFFFD) ∨
    (triple.count.toNat ≤ 64 ∧ triple.count.toNat = triple.parameters.length)

/-- The entries that the format has room for. -/
def HasSpelling : Entry → Prop
  | .delay milliseconds => milliseconds.toNat ≤ 255
  | .microDelay microseconds => microseconds.toNat ≤ 255
  | .endMark => True
  | .write opcode parameters => ¬ IsReserved opcode ∧ parameters.length ≤ 64

/-- The triples agree in all that matters behind their opcode. -/
structure Triple.AgreesWith (first second : Triple) : Prop where
  opcode : first.opcode = second.opcode
  count : first.opcode = 0xFFFC ∨ first.opcode = 0xFFFB → first.count = second.count
  parameters : ¬ IsReserved first.opcode → first.parameters = second.parameters

/-! ## Decoding is spelling read backwards -/

section

variable {triple : Triple} {entry : Entry}

theorem Triple.decode_eq_ok_iff : triple.decode = .ok entry ↔ triple.Spells entry := by
  constructor
  · intro decoded
    obtain ⟨opcode, count, parameters⟩ := triple
    rcases decode_cases decoded with ⟨same, rfl⟩ | ⟨same, rfl⟩ | ⟨same, rfl⟩ |
      ⟨plain, counted, within, rfl⟩
    · obtain rfl : opcode = 0xFFFC := same
      exact .delay (UInt8.toNat_toUInt32 count)
    · obtain rfl : opcode = 0xFFFB := same
      exact .microDelay (UInt8.toNat_toUInt32 count)
    · obtain rfl : opcode = 0xFFFD := same
      exact .endMark
    · have length : parameters.length = count.toNat := counted
      refine .write plain ?_ length.symm
      rw [← length]
      exact within
  · intro spells
    have word {count : UInt8} {duration : UInt32} (lasts : duration.toNat = count.toNat) :
        count.toUInt32 = duration := by
      apply UInt32.toNat_inj.mp
      rw [UInt8.toNat_toUInt32, lasts]
    cases spells with
    | delay lasts =>
      rw [← word lasts]
      rfl
    | microDelay lasts =>
      rw [← word lasts]
      rfl
    | endMark => rfl
    | @write opcode count parameters plain within counted =>
      have fits : ¬ maxParameters < count.toNat := Nat.not_lt.mpr within
      rw [decode_of_not_isReserved plain, if_neg fits, if_neg (not_not.mpr counted)]

theorem Triple.exists_decode_iff : (∃ entry, triple.decode = .ok entry) ↔ triple.IsWellFormed := by
  simp only [decode_eq_ok_iff]
  constructor
  · rintro ⟨entry, spells⟩
    cases spells with
    | delay => exact .inl (.inl rfl)
    | microDelay => exact .inl (.inr (.inl rfl))
    | endMark => exact .inl (.inr (.inr rfl))
    | write _ within counted => exact .inr ⟨within, counted⟩
  · intro wellFormed
    obtain ⟨opcode, count, parameters⟩ := triple
    by_cases reserved : IsReserved opcode
    · rcases reserved with rfl | rfl | rfl
      · exact ⟨_, .delay (UInt8.toNat_toUInt32 count)⟩
      · exact ⟨_, .microDelay (UInt8.toNat_toUInt32 count)⟩
      · exact ⟨_, .endMark⟩
    · -- The count decides, since the opcode does not.
      obtain ⟨within, counted⟩ := wellFormed.resolve_left reserved
      exact ⟨_, .write reserved within counted⟩

/-- Of two things that are wrong with a triple, the limit is told first. -/
theorem Triple.decode_of_not_isWellFormed (malformed : ¬ triple.IsWellFormed) :
    triple.decode = .error (if 64 < triple.count.toNat then .tooManyParameters triple.count.toNat
      else .countMismatch triple.count triple.parameters.length) := by
  obtain ⟨plain, miscounted⟩ := not_or.mp malformed
  rw [decode_of_not_isReserved plain]
  by_cases beyond : 64 < triple.count.toNat
  · have long : maxParameters < triple.count.toNat := beyond
    rw [if_pos long, if_pos beyond]
  · have fits : ¬ maxParameters < triple.count.toNat := beyond
    have differs : triple.count.toNat ≠ triple.parameters.length := by
      intro same
      exact miscounted ⟨Nat.le_of_not_lt beyond, same⟩
    rw [if_neg fits, if_neg beyond, if_pos differs]

theorem Triple.decode_eq_error_iff {refusal : Refusal} : triple.decode = .error refusal ↔
    ¬ triple.IsWellFormed ∧ refusal =
      if 64 < triple.count.toNat then .tooManyParameters triple.count.toNat
      else .countMismatch triple.count triple.parameters.length := by
  by_cases wellFormed : triple.IsWellFormed
  · obtain ⟨entry, decoded⟩ := exists_decode_iff.mpr wellFormed
    simp [decoded, wellFormed]
  · simp [decode_of_not_isWellFormed wellFormed, wellFormed, eq_comm]

/-- A number up to 255 is the number of some count. -/
theorem exists_count {number : Nat} (short : number ≤ 255) :
    ∃ count : UInt8, count.toNat = number :=
  ⟨.ofNat number, UInt8.toNat_ofNat_of_lt' (Nat.lt_succ_of_le short)⟩

theorem exists_spells_iff : (∃ triple : Triple, triple.Spells entry) ↔ HasSpelling entry := by
  constructor
  · rintro ⟨triple, spells⟩
    cases spells with
    | @delay count _ milliseconds lasts =>
      show milliseconds.toNat ≤ 255
      have := count.toNat_lt
      omega
    | @microDelay count _ microseconds lasts =>
      show microseconds.toNat ≤ 255
      have := count.toNat_lt
      omega
    | endMark => exact trivial
    | write plain within counted => exact ⟨plain, counted ▸ within⟩
  · intro room
    cases entry with
    | delay milliseconds =>
      obtain ⟨count, same⟩ := exists_count room
      exact ⟨⟨0xFFFC, count, []⟩, .delay same.symm⟩
    | microDelay microseconds =>
      obtain ⟨count, same⟩ := exists_count room
      exact ⟨⟨0xFFFB, count, []⟩, .microDelay same.symm⟩
    | endMark => exact ⟨⟨0xFFFD, 0, []⟩, .endMark⟩
    | write opcode parameters =>
      obtain ⟨plain, within⟩ := room
      obtain ⟨count, same⟩ := exists_count (Nat.le_trans within (by decide))
      exact ⟨⟨opcode, count, parameters⟩, .write plain (same ▸ within) same⟩

end

/-! ## What is lost -/

section

variable {first second : Triple} {entry : Entry}

theorem Triple.Spells.agreesWith (one : first.Spells entry) (two : second.Spells entry) :
    first.AgreesWith second := by
  cases one with
  | delay lasts =>
    cases two with
    | delay lastsToo =>
      refine ⟨rfl, fun _ => ?_, fun plain => absurd (.inl rfl) plain⟩
      exact UInt8.toNat_inj.mp (lasts.symm.trans lastsToo)
  | microDelay lasts =>
    cases two with
    | microDelay lastsToo =>
      refine ⟨rfl, fun _ => ?_, fun plain => absurd (.inr (.inl rfl)) plain⟩
      exact UInt8.toNat_inj.mp (lasts.symm.trans lastsToo)
  | endMark =>
    cases two with
    | endMark =>
      refine ⟨rfl, fun waits => ?_, fun plain => absurd (.inr (.inr rfl)) plain⟩
      rcases waits with same | same <;> cases same
  | write plain =>
    cases two with
    | write =>
      refine ⟨rfl, fun waits => ?_, fun _ => rfl⟩
      exact absurd (waits.imp_right .inl) plain

/-- A well-formed triple that agrees with a spelling is another spelling of the entry. -/
theorem Triple.Spells.of_agreesWith (spells : first.Spells entry)
    (agrees : first.AgreesWith second) (wellFormed : second.IsWellFormed) :
    second.Spells entry := by
  obtain ⟨opcode, count, parameters⟩ := second
  cases spells with
  | @delay given _ _ lasts =>
    obtain rfl : 0xFFFC = opcode := agrees.opcode
    obtain rfl : given = count := agrees.count (.inl rfl)
    exact .delay lasts
  | @microDelay given _ _ lasts =>
    obtain rfl : 0xFFFB = opcode := agrees.opcode
    obtain rfl : given = count := agrees.count (.inr rfl)
    exact .microDelay lasts
  | endMark =>
    obtain rfl : 0xFFFD = opcode := agrees.opcode
    exact .endMark
  | @write register _ bytes plain =>
    obtain rfl : register = opcode := agrees.opcode
    obtain rfl : bytes = parameters := agrees.parameters plain
    obtain ⟨within, counted⟩ := wellFormed.resolve_left plain
    exact .write plain within counted

theorem Triple.decode_eq_decode_iff (one : first.IsWellFormed) (two : second.IsWellFormed) :
    first.decode = second.decode ↔ first.AgreesWith second := by
  obtain ⟨entry, decoded⟩ := exists_decode_iff.mpr one
  have spells : first.Spells entry := decode_eq_ok_iff.mp decoded
  constructor
  · intro same
    rw [decoded] at same
    exact spells.agreesWith (decode_eq_ok_iff.mp same.symm)
  · intro agrees
    rw [decoded, decode_eq_ok_iff.mpr (spells.of_agreesWith agrees two)]

end

/-! ## The strict ways -/

section

variable {triple : Triple} {entry : Entry}

theorem Triple.require_eq_ok_iff : triple.require = .ok entry ↔ triple.decode = .ok entry := by
  unfold require
  cases triple.decode <;> simp [Except.mapError]

theorem Triple.require_eq_error_iff {defect : Defect} :
    triple.require = .error defect ↔ ∃ refusal, triple.decode = .error refusal ∧
      refusal.defect = defect := by
  unfold require
  cases triple.decode <;> simp [Except.mapError]

theorem Triple.exists_message_iff {text : String} :
    (∃ defect, triple.require = .error defect ∧ defect.message = text) ↔
      ((∃ count, triple.decode = .error (.tooManyParameters count)) ∧
          text = "register write exceeds 64 parameter bytes") ∨
        ((∃ count provided, triple.decode = .error (.countMismatch count provided)) ∧
          text = "parameter count does not match the parameter list") := by
  simp only [require_eq_error_iff]
  constructor
  · rintro ⟨_, ⟨refusal, refused, rfl⟩, rfl⟩
    cases refusal with
    | tooManyParameters count => exact .inl ⟨⟨count, refused⟩, rfl⟩
    | countMismatch count provided => exact .inr ⟨⟨count, provided, refused⟩, rfl⟩
  · rintro (⟨⟨count, refused⟩, rfl⟩ | ⟨⟨count, provided, refused⟩, rfl⟩)
    · exact ⟨.oversized, ⟨_, refused, rfl⟩, rfl⟩
    · exact ⟨.miscounted, ⟨_, refused, rfl⟩, rfl⟩

theorem checked_eq_ok_iff_exists_decode {opcode : UInt32} {parameters : List UInt8}
    (plain : ¬ IsReserved opcode) : Entry.checked opcode parameters = .ok entry ↔
      ∃ count, Triple.decode ⟨opcode, count, parameters⟩ = .ok entry := by
  rw [Entry.checked_eq_ok_iff]
  simp only [Triple.decode_eq_ok_iff]
  constructor
  · rintro ⟨within, rfl⟩
    obtain ⟨count, same⟩ := exists_count (Nat.le_trans within (by decide))
    exact ⟨count, .write plain (same ▸ within) same⟩
  · rintro ⟨count, spells⟩
    cases spells with
    | delay => exact absurd (.inl rfl) plain
    | microDelay => exact absurd (.inr (.inl rfl)) plain
    | endMark => exact absurd (.inr (.inr rfl)) plain
    | write _ within counted => exact ⟨counted ▸ within, rfl⟩

end

/-! ## All of it -/

/-- What is made of a triple, by decoding it and by requiring it. -/
structure Triple.Judged (triple : Triple) : Prop where
  accepted : (∃ entry, triple.decode = .ok entry) ↔ triple.IsWellFormed
  overfull : ∀ count, triple.decode = .error (.tooManyParameters count) ↔
    ¬ triple.IsWellFormed ∧ 64 < triple.count.toNat ∧ count = triple.count.toNat
  miscounted : ∀ count provided, triple.decode = .error (.countMismatch count provided) ↔
    ¬ triple.IsWellFormed ∧ triple.count.toNat ≤ 64 ∧
      triple.count.toNat ≠ triple.parameters.length ∧
      count = triple.count ∧ provided = triple.parameters.length
  required : ∀ entry, triple.require = .ok entry ↔ triple.decode = .ok entry
  /-- a triple that is required and is none stops with the text for what is wrong with it -/
  message : ∀ text, (∃ defect, triple.require = .error defect ∧ defect.message = text) ↔
    ((∃ count, triple.decode = .error (.tooManyParameters count)) ∧
        text = "register write exceeds 64 parameter bytes") ∨
      ((∃ count provided, triple.decode = .error (.countMismatch count provided)) ∧
        text = "parameter count does not match the parameter list")

theorem Triple.judged (triple : Triple) : triple.Judged := by
  refine ⟨exists_decode_iff, fun count => ?_, fun count provided => ?_,
    fun entry => require_eq_ok_iff, fun text => exists_message_iff⟩
  · rw [decode_eq_error_iff]
    apply and_congr_right
    intro malformed
    by_cases beyond : 64 < triple.count.toNat
    · simp [beyond]
    · simp [beyond]
  · rw [decode_eq_error_iff]
    apply and_congr_right
    intro malformed
    by_cases beyond : 64 < triple.count.toNat
    · simp [beyond, Nat.not_le_of_lt beyond]
    · have within : triple.count.toNat ≤ 64 := Nat.le_of_not_lt beyond
      have differs : triple.count.toNat ≠ triple.parameters.length := by
        intro same
        exact malformed (.inr ⟨within, same⟩)
      simp [beyond, within, differs]

/-- **Decoding accepts just the format**, reaches every entry that the format has room for, and
    takes two triples for the same entry only where they agree in all that matters. A register write
    that is written down strictly is one that some count decodes to. -/
theorem format_is_exact :
    (∀ triple : Triple, triple.Judged) ∧
      (∀ entry, (∃ triple : Triple, triple.decode = .ok entry) ↔ HasSpelling entry) ∧
      (∀ first second : Triple, first.IsWellFormed → second.IsWellFormed →
        (first.decode = second.decode ↔ first.AgreesWith second)) ∧
      ∀ opcode parameters entry, ¬ IsReserved opcode →
        (Entry.checked opcode parameters = .ok entry ↔
          ∃ count, Triple.decode ⟨opcode, count, parameters⟩ = .ok entry) := by
  refine ⟨Triple.judged, fun entry => ?_, fun first second => Triple.decode_eq_decode_iff,
    fun opcode parameters entry => checked_eq_ok_iff_exists_decode⟩
  simp only [Triple.decode_eq_ok_iff]
  exact exists_spells_iff

end DsiPanel.Vendor
