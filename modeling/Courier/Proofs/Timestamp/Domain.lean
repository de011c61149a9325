import Courier.Proofs.Bytes
import Courier.Proofs.Timestamp
import Mathlib

/-!
# `Courier.Proofs.Timestamp.Domain`: the data that stand for an instant

`Timestamp.unpack` refuses data for two reasons, and `unpack_cases` says when it does for which.
Data of fewer than twelve bytes are too short. The first eight bytes of longer data are a word in
two's complement (`secondsOf`), and the calendar has an instant at some of these seconds only. The
milliseconds that are counted on the way do not show: they overflow at many words, but at none that
the calendar has (`millisOf?_of_inCalendar`).

An accepted word is the one that packing writes. Words and the numbers that they stand for
determine each other in both directions (`bigEndian_secondsOf`), so packing gives back the first
eight bytes of the data (`pack_of_unpack`).
-/

set_option autoImplicit false

namespace Courier.Proofs.Timestamp

open Courier.Timestamp

/-- The seconds that data are about: the number that their first eight bytes are in two's
complement. -/
def secondsOf (data : Bytes) : Int :=
  (BitVec.ofNat 64 (Bytes.ofBigEndian (data.take 8))).toInt

/-- The seconds at which the calendar has instants. -/
def InCalendar (seconds : Int) : Prop := -8334601228800 ≤ seconds ∧ seconds ≤ 8210266876799

instance (seconds : Int) : Decidable (InCalendar seconds) :=
  inferInstanceAs (Decidable (_ ∧ _))

section
variable {data : Bytes} {seconds : Int}

/-! ### The word -/

/-- A word of 64 bits in two's complement, as arithmetic. -/
theorem toInt_ofNat {n : Nat} (h : n < 2 ^ 64) :
    (BitVec.ofNat 64 n).toInt = if n < 2 ^ 63 then (n : Int) else (n : Int) - 2 ^ 64 := by
  rw [BitVec.toInt_eq_toNat_cond, BitVec.toNat_ofNat, Nat.mod_eq_of_lt h]
  split <;> split <;> omega

/-- Twelve bytes have eight in front. -/
theorem length_take (h : 12 ≤ data.length) : (data.take 8).length = 8 := by
  rw [List.length_take]
  omega

/-- Eight bytes make a number of 64 bits. -/
theorem ofBigEndian_take_lt (h : 12 ≤ data.length) : Bytes.ofBigEndian (data.take 8) < 2 ^ 64 := by
  have hlt := Bytes.ofBigEndian_lt (data.take 8)
  rw [length_take h] at hlt
  exact hlt

/-- The seconds that unpacking reads are those of the data. -/
theorem ofTwosComplement_take (h : 12 ≤ data.length) :
    MessagePack.ofTwosComplement 8 (Bytes.ofBigEndian (data.take 8)) = secondsOf data := by
  have hcapacity : Bytes.capacity 8 = 2 ^ 64 := rfl
  unfold MessagePack.ofTwosComplement secondsOf
  rw [toInt_ofNat (ofBigEndian_take_lt h), hcapacity]
  split <;> split <;> omega

/-- The word of the seconds is the first eight bytes of the data. -/
theorem bigEndian_secondsOf (h : 12 ≤ data.length) :
    Bytes.bigEndian 8 (secondsOf data % UInt64.size).toNat = data.take 8 := by
  have hlt := ofBigEndian_take_lt h
  -- taking the seconds modulo the words undoes the complement
  have hword : (secondsOf data % UInt64.size).toNat = Bytes.ofBigEndian (data.take 8) := by
    unfold secondsOf
    rw [toInt_ofNat hlt, UInt64.size]
    split <;> omega
  have hbytes := Bytes.bigEndian_ofBigEndian (data.take 8)
  rw [length_take h] at hbytes
  rw [hword, hbytes]

/-! ### The calendar -/

/-- No seconds of the calendar overflow when they are counted in milliseconds. -/
theorem millisOf?_of_inCalendar (h : InCalendar seconds) :
    millisOf? seconds = some (seconds * 1000) := by
  obtain ⟨hleast, hgreatest⟩ := h
  unfold millisOf?
  rw [if_pos (by omega)]

/-- The milliseconds that are counted fit a word of eight bytes. -/
theorem millisOf?_eq_some {millis : Int} (h : millisOf? seconds = some millis) :
    millis = seconds * 1000 ∧ -2 ^ 63 ≤ millis ∧ millis < 2 ^ 63 := by
  unfold millisOf? at h
  split at h
  · rename_i hfit
    rw [← Option.some.inj h]
    exact ⟨rfl, by omega, by omega⟩
  · cases h

/-- The calendar has an instant at a whole second of its range. -/
theorem ofSeconds?_of_inCalendar (h : InCalendar seconds) :
    ∃ t, Instant.ofSeconds? seconds = some t ∧ t.seconds = seconds ∧ t.nanos = 0 := by
  unfold Instant.ofSeconds? Instant.ofParts?
  rw [dif_pos ⟨h.1, h.2, Or.inl (by omega)⟩]
  exact ⟨_, rfl, rfl, rfl⟩

/-- It has none outside. -/
theorem ofSeconds?_eq_none (h : ¬ InCalendar seconds) :
    Instant.ofSeconds? seconds = none := by
  unfold Instant.ofSeconds? Instant.ofParts?
  rw [dif_neg]
  intro hrange
  exact h ⟨hrange.1, hrange.2.1⟩

/-! ### Unpacking -/

/-- Data of less than twelve bytes are refused for their length. -/
theorem unpack_of_short (h : data.length < 12) :
    unpack data = .error (.timestampTooShort 12 data.length) := by
  unfold unpack
  exact if_pos h

/-- Unpacking data that are long enough looks their seconds up in the calendar. -/
theorem unpack_of_length (h : 12 ≤ data.length) :
    unpack data
      = match Instant.ofSeconds? (secondsOf data) with
        | some t => .ok t
        | none => .error (.timestampOutOfRange (secondsOf data)) := by
  unfold unpack
  rw [if_neg (by rw [size]; omega)]
  cases hinstant : Instant.ofSeconds? (secondsOf data) <;>
    simp only [ofTwosComplement_take h, bind_millisOf?, hinstant]

/-- Unpacking does one of three things: it refuses short data, it refuses seconds out of range,
and it gives the instant at the seconds. -/
theorem unpack_cases (data : Bytes) :
    (data.length < 12 ∧ unpack data = .error (.timestampTooShort 12 data.length)) ∨
    (12 ≤ data.length ∧ ¬ InCalendar (secondsOf data) ∧
      unpack data = .error (.timestampOutOfRange (secondsOf data))) ∨
    (12 ≤ data.length ∧ InCalendar (secondsOf data) ∧
      ∃ t, unpack data = .ok t ∧ t.seconds = secondsOf data ∧ t.nanos = 0) := by
  by_cases hlength : data.length < 12
  · exact .inl ⟨hlength, unpack_of_short hlength⟩
  have hlong : 12 ≤ data.length := by omega
  by_cases hrange : InCalendar (secondsOf data)
  · obtain ⟨t, ht, hparts⟩ := ofSeconds?_of_inCalendar hrange
    refine .inr (.inr ⟨hlong, hrange, t, ?_, hparts⟩)
    rw [unpack_of_length hlong, ht]
  · refine .inr (.inl ⟨hlong, hrange, ?_⟩)
    rw [unpack_of_length hlong, ofSeconds?_eq_none hrange]

/-- Only short data are called short. -/
theorem unpack_eq_tooShort_iff :
    unpack data = .error (.timestampTooShort 12 data.length) ↔ data.length < 12 := by
  constructor
  · intro h
    obtain ⟨hshort, -⟩ | ⟨-, -, hunpack⟩ | ⟨-, -, t, hunpack, -⟩ := unpack_cases data
    · exact hshort
    all_goals
      rw [hunpack] at h
      cases h
  · exact unpack_of_short

/-- Data that are long enough stand for an instant if their seconds are in range, -/
theorem unpack_eq_ok_iff (hlength : 12 ≤ data.length) :
    (∃ t, unpack data = .ok t) ↔ InCalendar (secondsOf data) := by
  obtain ⟨hshort, -⟩ | ⟨-, hout, hunpack⟩ | ⟨-, hin, t, hunpack, -⟩ := unpack_cases data
  · omega
  · constructor
    · intro ⟨t, ht⟩
      rw [hunpack] at ht
      cases ht
    · intro hin
      exact absurd hin hout
  · exact ⟨fun _ => hin, fun _ => ⟨t, hunpack⟩⟩

/-- and are refused for their seconds if these are not. -/
theorem unpack_eq_outOfRange_iff (hlength : 12 ≤ data.length) :
    unpack data = .error (.timestampOutOfRange (secondsOf data)) ↔
      ¬ InCalendar (secondsOf data) := by
  obtain ⟨hshort, -⟩ | ⟨-, hout, hunpack⟩ | ⟨-, hin, t, hunpack, -⟩ := unpack_cases data
  · omega
  · exact ⟨fun _ => hout, fun _ => hunpack⟩
  · constructor
    · intro h
      rw [hunpack] at h
      cases h
    · intro hout
      exact absurd hin hout

/-- What is unpacked is the whole second that the data are about. -/
theorem parts_of_unpack {t : Instant} (hlength : 12 ≤ data.length) (h : unpack data = .ok t) :
    t.seconds = secondsOf data ∧ t.nanos = 0 := by
  obtain ⟨hshort, -⟩ | ⟨-, -, hunpack⟩ | ⟨-, -, u, hunpack, hparts⟩ := unpack_cases data
  · omega
  · rw [hunpack] at h
    cases h
  · rw [hunpack] at h
    rw [← Except.ok.inj h]
    exact hparts

/-- Packing what was unpacked gives the first eight bytes, with zeros for the nanoseconds. -/
theorem pack_of_unpack {t : Instant} (hlength : 12 ≤ data.length) (h : unpack data = .ok t) :
    pack t = data.take 8 ++ [0, 0, 0, 0] := by
  obtain ⟨hseconds, hnanos⟩ := parts_of_unpack hlength h
  unfold pack
  rw [packedSeconds_whole hnanos, hseconds, bigEndian_secondsOf hlength]

end

/-- Which data stand for an instant. Data of fewer than twelve bytes, and no others, are too short.
Of the others, those are refused whose first eight bytes are out of range as a number in two's
complement. Those in range stand for the instant at this second, whose packed form is the eight
bytes followed by four zeros. Counting the milliseconds of the seconds never wraps, and never stops
at seconds in range. -/
theorem unpack_exact (data : Bytes) :
    (unpack data = .error (.timestampTooShort 12 data.length) ↔ data.length < 12) ∧
    (12 ≤ data.length →
      ((∃ t, unpack data = .ok t) ↔ InCalendar (secondsOf data)) ∧
      (unpack data = .error (.timestampOutOfRange (secondsOf data)) ↔
        ¬ InCalendar (secondsOf data)) ∧
      (InCalendar (secondsOf data) → (millisOf? (secondsOf data)).isSome) ∧
      (∀ millis, millisOf? (secondsOf data) = some millis →
        millis = secondsOf data * 1000 ∧ -2 ^ 63 ≤ millis ∧ millis < 2 ^ 63) ∧
      ∀ t, unpack data = .ok t →
        t.seconds = secondsOf data ∧ t.nanos = 0 ∧ pack t = data.take 8 ++ [0, 0, 0, 0]) := by
  refine ⟨unpack_eq_tooShort_iff, fun hlength => ⟨unpack_eq_ok_iff hlength,
    unpack_eq_outOfRange_iff hlength, ?_, fun _ hmillis => millisOf?_eq_some hmillis, ?_⟩⟩
  · intro hin
    rw [millisOf?_of_inCalendar hin]
    rfl
  · intro t ht
    obtain ⟨hseconds, hnanos⟩ := parts_of_unpack hlength ht
    exact ⟨hseconds, hnanos, pack_of_unpack hlength ht⟩

/-- The second before the start of 1970, with nanoseconds that are dropped and a byte too many. -/
def beforeEpoch : Bytes := List.replicate 8 255 ++ [1, 2, 3, 4, 5]

/-- The greatest word, at which the milliseconds overflow. -/
def greatestWord : Bytes := 127 :: List.replicate 7 255 ++ [0, 0, 0, 0]

/-- The second before 1970 comes back from twelve bytes, and the greatest word is out of range. -/
theorem unpack_exact_negative :
    (unpack beforeEpoch = .ok ⟨-1, 0, by decide, by decide, by decide⟩ ∧
      pack ⟨-1, 0, by decide, by decide, by decide⟩ = List.replicate 8 255 ++ [0, 0, 0, 0]) ∧
    unpack greatestWord = .error (.timestampOutOfRange (secondsOf greatestWord)) ∧
    millisOf? (secondsOf greatestWord) = none := by
  have hbefore := (unpack_exact beforeEpoch).2 (by decide)
  have hgreatest := (unpack_exact greatestWord).2 (by decide)
  have hunpack : unpack beforeEpoch = .ok ⟨-1, 0, by decide, by decide, by decide⟩ := by cbv
  refine ⟨⟨hunpack, ?_⟩, ?_, by decide +kernel⟩
  · exact (hbefore.2.2.2.2 _ hunpack).2.2
  · exact hgreatest.2.1.mpr (by decide +kernel)

end Courier.Proofs.Timestamp
