import Courier.Timestamp
import Mathlib

/-!
# `Courier.Proofs.Timestamp`: what packing keeps of an instant

`Timestamp.pack` writes seconds as a word of eight bytes in two's complement, and
`Timestamp.unpack` reads such a word and looks it up in the calendar. `unpack_pack` says that
the way there and back is `Instant.ofSeconds?` of the packed seconds, so that only the calendar
can refuse: packed seconds always fit the word. It does not refuse a whole second, which is what
unpacking gives (`nanos_of_unpack`), and that one comes back as it is (`unpack_pack_whole`).
-/

set_option autoImplicit false

namespace Courier.Proofs.Timestamp

open Courier.Timestamp

/-- The packed seconds lie at most two seconds above those of the instant. The second of them is
due to the second form of a leap second. -/
theorem packedSeconds_bounds (t : Instant) :
    t.seconds ≤ packedSeconds t ∧ packedSeconds t ≤ t.seconds + 2 := by
  have hnanos := t.nanos_lt
  -- a leap second has up to two thousand milliseconds, which are rounded up
  unfold packedSeconds Instant.millis
  split <;> omega

/-- A word in two's complement of eight bytes gives back the number that it was made of. -/
theorem ofTwosComplement_emod {n : Int} (hlow : -2 ^ 63 ≤ n) (hhigh : n < 2 ^ 63) :
    MessagePack.ofTwosComplement 8 (n % UInt64.size).toNat = n := by
  have hcapacity : Bytes.capacity 8 = 2 ^ 64 := rfl
  unfold MessagePack.ofTwosComplement
  rw [hcapacity, UInt64.size]
  split <;> omega

/-- A packed instant has twelve bytes. -/
theorem length_pack (t : Instant) : (pack t).length = 12 := by
  rw [pack, List.length_append, Bytes.length_bigEndian]
  rfl

/-- The way over milliseconds leads to the instant at the second. Seconds whose milliseconds
overflow are far outside the calendar. -/
theorem bind_millisOf? (seconds : Int) :
    (millisOf? seconds).bind Instant.ofMillis? = Instant.ofSeconds? seconds := by
  unfold millisOf?
  split
  · -- whole seconds have no milliseconds left over
    have hseconds : seconds * 1000 / 1000 = seconds := by omega
    have hrest : seconds * 1000 % 1000 = 0 := by omega
    show Instant.ofParts? (seconds * 1000 / 1000) ((seconds * 1000 % 1000).toNat * 1000000) = _
    rw [hseconds, hrest]
    rfl
  · rename_i hoverflow
    show none = Instant.ofParts? seconds 0
    unfold Instant.ofParts?
    rw [dif_neg]
    omega

/-- The packed seconds are what is read in the first eight bytes. -/
theorem ofTwosComplement_take_pack (t : Instant) :
    MessagePack.ofTwosComplement 8 (Bytes.ofBigEndian ((pack t).take 8)) = packedSeconds t := by
  have hbounds := packedSeconds_bounds t
  have hleast := t.least_le
  have hgreatest := t.le_greatest
  have hword : (packedSeconds t % UInt64.size).toNat < Bytes.capacity 8 := by
    have hcapacity : Bytes.capacity 8 = 2 ^ 64 := rfl
    rw [hcapacity, UInt64.size]
    omega
  -- the first eight bytes are the seconds, and the rest is not read
  have htake : (pack t).take 8 = Bytes.bigEndian 8 (packedSeconds t % UInt64.size).toNat :=
    List.take_left' (Bytes.length_bigEndian 8 _)
  rw [htake, Bytes.ofBigEndian_bigEndian hword, ofTwosComplement_emod (by omega) (by omega)]

/-- Unpacking what was packed looks the packed seconds up in the calendar. -/
theorem unpack_pack (t : Instant) :
    unpack (pack t)
      = match Instant.ofSeconds? (packedSeconds t) with
        | some u => .ok u
        | none => .error (.timestampOutOfRange (packedSeconds t)) := by
  unfold unpack
  rw [if_neg (by rw [length_pack, size]; omega)]
  cases hinstant : Instant.ofSeconds? (packedSeconds t) <;>
    simp only [ofTwosComplement_take_pack, bind_millisOf?, hinstant]

/-- The instants of the calendar at a whole second have no nanoseconds. -/
theorem ofSeconds?_eq_some {seconds : Int} {t : Instant}
    (h : Instant.ofSeconds? seconds = some t) : t.seconds = seconds ∧ t.nanos = 0 := by
  unfold Instant.ofSeconds? Instant.ofParts? at h
  split at h
  · rw [← Option.some.inj h]
    exact ⟨rfl, rfl⟩
  · cases h

/-- Unpacking gives whole seconds, whatever the nanoseconds of the data are. -/
theorem nanos_of_unpack {data : Bytes} {t : Instant} (h : unpack data = .ok t) : t.nanos = 0 := by
  unfold unpack at h
  split at h
  · cases h
  · simp only [bind_millisOf?] at h
    split at h
    · rename_i u hu
      rw [← Except.ok.inj h]
      exact (ofSeconds?_eq_some hu).2
    · cases h

/-- A whole second is not rounded. -/
theorem packedSeconds_whole {t : Instant} (h : t.nanos = 0) : packedSeconds t = t.seconds := by
  unfold packedSeconds Instant.millis
  rw [h]
  split <;> omega

/-- A whole second comes back as it is. -/
theorem unpack_pack_whole {t : Instant} (h : t.nanos = 0) : unpack (pack t) = .ok t := by
  obtain ⟨seconds, nanos, hleast, hgreatest, hnanos⟩ := t
  subst h
  have hinstant : Instant.ofSeconds? seconds = some ⟨seconds, 0, hleast, hgreatest, hnanos⟩ := by
    unfold Instant.ofSeconds? Instant.ofParts?
    rw [dif_pos ⟨hleast, hgreatest, .inl (by decide)⟩]
  rw [unpack_pack, packedSeconds_whole rfl, hinstant]

end Courier.Proofs.Timestamp
