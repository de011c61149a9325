import Courier.Proofs.Timestamp.Domain
import Mathlib

/-!
# `Courier.Proofs.Timestamp.Rounding`: which second an instant is packed as

`Timestamp.pack` means to round an instant up to the next whole second. It counts whole milliseconds
before it does, and what is left of a millisecond is dropped there. This matters to the instants
that are past a whole second by less than a millisecond (`Instant.JustPast`): nothing is left of
them to round up, and they are packed as the second before them. All others are packed as the least
second that is not before them (`secondsOf_pack_eq`), among them those before 1970, where
milliseconds are rounded down, and the second forms of leap seconds behind any second, which may be
rounded up by more than their own second.

Seconds and instants are compared as numbers of nanoseconds (`Instant.total`). In these the two
cases are linear arithmetic (`packed_of_justPast`, `packed_of_not_justPast`).
-/

set_option autoImplicit false

namespace Courier

namespace Instant
variable (t : Instant)

/-- The seconds from the start of 1970 to an instant. -/
def time : ℚ := t.seconds + t.nanos / 10 ^ 9

/-- The nanoseconds from the start of 1970 to an instant. -/
def total : ℤ := t.seconds * 10 ^ 9 + t.nanos

/-- An instant is just past a second if it is past it, but not by a millisecond. -/
def JustPast : Prop := 0 < t.nanos % 10 ^ 9 ∧ t.nanos % 10 ^ 9 < 10 ^ 6

instance : Decidable t.JustPast := inferInstanceAs (Decidable (_ ∧ _))

/-- The time of an instant is its nanoseconds in seconds. -/
theorem time_eq : t.time = (t.total : ℚ) / 10 ^ 9 := by
  unfold time total
  push_cast
  ring

/-- So an instant is compared with a whole second in nanoseconds. -/
theorem time_le_iff (s : ℤ) : t.time ≤ s ↔ t.total ≤ s * 10 ^ 9 := by
  rw [time_eq, div_le_iff₀ (by norm_num)]
  exact_mod_cast Iff.rfl

/-- On the other side, too. -/
theorem le_time_iff (s : ℤ) : (s : ℚ) ≤ t.time ↔ s * 10 ^ 9 ≤ t.total := by
  rw [time_eq, le_div_iff₀ (by norm_num)]
  exact_mod_cast Iff.rfl

end Instant

namespace Proofs.Timestamp

open Courier.Timestamp

section
variable {t : Instant}

/-! ### The packed seconds, in nanoseconds -/

/-- An instant just past a second is packed as this second. -/
theorem packed_of_justPast (h : t.JustPast) :
    packedSeconds t * 10 ^ 9 < t.total ∧ t.total < packedSeconds t * 10 ^ 9 + 10 ^ 6 := by
  obtain ⟨hpast, hjust⟩ := h
  unfold packedSeconds Instant.millis Instant.total
  split <;> omega

/-- Another instant is rounded up, by less than a second. -/
theorem packed_of_not_justPast (h : ¬ t.JustPast) :
    t.total ≤ packedSeconds t * 10 ^ 9 ∧ packedSeconds t * 10 ^ 9 < t.total + 10 ^ 9 := by
  unfold Instant.JustPast at h
  unfold packedSeconds Instant.millis Instant.total
  split <;> omega

/-- Nothing is rounded if the nanoseconds make whole seconds, as those of a leap second may. -/
theorem packed_eq_total_iff : packedSeconds t * 10 ^ 9 = t.total ↔ t.nanos % 10 ^ 9 = 0 := by
  unfold packedSeconds Instant.millis Instant.total
  split <;> omega

/-- The seconds that the data are about are those that were packed. -/
theorem secondsOf_pack (t : Instant) : secondsOf (pack t) = packedSeconds t := by
  rw [← ofTwosComplement_take (by rw [length_pack]), ofTwosComplement_take_pack]

/-- So they are the second before an instant that is just past it, and the next second of any
other. -/
theorem secondsOf_pack_eq (t : Instant) :
    secondsOf (pack t) = if t.JustPast then ⌊t.time⌋ else ⌈t.time⌉ := by
  rw [secondsOf_pack]
  -- floor and ceiling are told by the bounds on the packed second on either side
  symm
  split
  · rename_i hjust
    obtain ⟨hbefore, hafter⟩ := packed_of_justPast hjust
    rw [Int.floor_eq_iff]
    constructor
    · rw [Instant.le_time_iff]
      omega
    · have hnext : ¬ ((packedSeconds t + 1 : ℤ) : ℚ) ≤ t.time := by
        rw [Instant.le_time_iff]
        omega
      push_cast at hnext
      exact not_le.mp hnext
  · rename_i hjust
    obtain ⟨hbefore, hafter⟩ := packed_of_not_justPast hjust
    rw [Int.ceil_eq_iff]
    constructor
    · have hlast : ¬ t.time ≤ ((packedSeconds t - 1 : ℤ) : ℚ) := by
        rw [Instant.time_le_iff]
        omega
      push_cast at hlast
      exact not_le.mp hlast
    · rw [Instant.time_le_iff]
      omega

/-! ### There and back -/

/-- What comes back is the packed second. -/
theorem time_of_unpack_pack {u : Instant} (h : unpack (pack t) = .ok u) :
    u.time = secondsOf (pack t) := by
  obtain ⟨hseconds, hnanos⟩ := parts_of_unpack (by rw [length_pack]) h
  unfold Instant.time
  rw [hseconds, hnanos]
  simp

/-- What comes back is at the time of what was packed if that was at a whole second. -/
theorem time_unpack_pack_eq_iff {u : Instant} (h : unpack (pack t) = .ok u) :
    u.time = t.time ↔ t.nanos % 10 ^ 9 = 0 := by
  rw [time_of_unpack_pack h, secondsOf_pack, Instant.time_eq, eq_div_iff (by norm_num),
    ← packed_eq_total_iff]
  exact_mod_cast Iff.rfl

/-- Only whole seconds come back as they are: what comes back has no nanoseconds. -/
theorem unpack_pack_eq_iff {u : Instant} (h : unpack (pack t) = .ok u) :
    u = t ↔ t.nanos = 0 := by
  constructor
  · intro heq
    rw [← heq]
    exact nanos_of_unpack h
  · intro hwhole
    rw [unpack_pack_whole hwhole] at h
    exact (Except.ok.inj h).symm

end

/-- Packing rounds up to whole seconds, unless an instant is just past a second, which it is then
rounded down to. What was packed is unpacked if its second is in range of the calendar, to the
instant at this second. It is not before the instant that was packed and less than a second after
it, or else less than a millisecond before it. Both are at the same time if the nanoseconds make
whole seconds, and they are the same instant if there are none. -/
theorem packed_up_unless_just_past (t : Instant) :
    secondsOf (pack t) = (if t.JustPast then ⌊t.time⌋ else ⌈t.time⌉) ∧
    ((∃ u, unpack (pack t) = .ok u) ↔ InCalendar (secondsOf (pack t))) ∧
    ∀ u, unpack (pack t) = .ok u →
      u.time = secondsOf (pack t) ∧
      (¬ t.JustPast → t.time ≤ u.time ∧ u.time < t.time + 1) ∧
      (t.JustPast → u.time < t.time ∧ t.time < u.time + 1 / 1000) ∧
      (u.time = t.time ↔ t.nanos % 10 ^ 9 = 0) ∧
      (u = t ↔ t.nanos = 0) := by
  refine ⟨secondsOf_pack_eq t, unpack_eq_ok_iff (by rw [length_pack]), ?_⟩
  intro u hu
  have htime := time_of_unpack_pack hu
  refine ⟨htime, ?_, ?_, time_unpack_pack_eq_iff hu, unpack_pack_eq_iff hu⟩
  · intro hjust
    rw [htime, secondsOf_pack_eq, if_neg hjust]
    exact ⟨Int.le_ceil _, Int.ceil_lt_add_one _⟩
  · intro hjust
    -- the bounds are in nanoseconds, and less than a millisecond of them is lost
    obtain ⟨hbefore, hafter⟩ := packed_of_justPast hjust
    rw [htime, secondsOf_pack, Instant.time_eq]
    constructor
    · rw [lt_div_iff₀ (by norm_num)]
      exact_mod_cast hbefore
    · rw [div_lt_iff₀ (by norm_num)]
      have hcast : (t.total : ℚ) < packedSeconds t * 10 ^ 9 + 10 ^ 6 := by exact_mod_cast hafter
      linarith

/-- The middle of a leap second behind second 30, in the middle of a minute. -/
def inLeapSecond : Instant := ⟨30, 1500000000, by decide, by decide, by decide⟩

/-- It is half a second past second 31, and rounded up to second 32. -/
theorem packed_up_unless_just_past_leap :
    unpack (pack inLeapSecond) = .ok ⟨32, 0, by decide, by decide, by decide⟩ ∧
    inLeapSecond.time ≤ Instant.time ⟨32, 0, by decide, by decide, by decide⟩ ∧
    Instant.time ⟨32, 0, by decide, by decide, by decide⟩ < inLeapSecond.time + 1 := by
  have hunpack : unpack (pack inLeapSecond) = .ok ⟨32, 0, by decide, by decide, by decide⟩ := by
    cbv
  have hcarried := (packed_up_unless_just_past inLeapSecond).2.2 _ hunpack
  exact ⟨hunpack, hcarried.2.1 (by decide)⟩

/-- A nanosecond past second 1. -/
def pastFirst : Instant := ⟨1, 1, by decide, by decide, by decide⟩

/-- It is packed as second 1, which is before it. -/
theorem packed_before :
    ¬ (∀ t : Instant, IsLeast {s : ℤ | t.time ≤ s} (secondsOf (pack t))) ∧
    ∃ u, unpack (pack pastFirst) = .ok u ∧ u.time < pastFirst.time := by
  have hpacked : secondsOf (pack pastFirst) = 1 := by decide +kernel
  have htime : 1 < pastFirst.time := by norm_num [Instant.time, pastFirst]
  constructor
  · intro hleast
    have hle : pastFirst.time ≤ (secondsOf (pack pastFirst) : ℤ) := (hleast pastFirst).1
    rw [hpacked] at hle
    push_cast at hle
    linarith
  · have hunpack : unpack (pack pastFirst) = .ok ⟨1, 0, by decide, by decide, by decide⟩ := by
      cbv
    refine ⟨_, hunpack, ?_⟩
    rw [time_of_unpack_pack hunpack, hpacked]
    exact_mod_cast htime

end Proofs.Timestamp

end Courier
