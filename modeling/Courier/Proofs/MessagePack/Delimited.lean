import Courier.Codec
import Courier.Proofs.MessagePack.Accepted

/-!
# `Courier.Proofs.MessagePack.Delimited`: an object says itself where it ends

Nothing outside of an object marks its end. The reader finds it by the markers and the lengths
alone, so what it makes of the front of an input does not depend on what follows (`Delimited`).
This is so for words, byte strings, items and entries, and by induction over the budget of levels
for whole objects (`delimited_read`).

For documents it means that none is the beginning of another (`Codec.decode_delimited`). Take away
bytes at the end, and there is no object any more; put bytes behind it, and these are left over.
Reading comes before meaning, so both are so even if the object has no meaning.
-/

set_option autoImplicit false

namespace Courier.MessagePack

open Courier.Proofs.MessagePack (exists_of_map_eq_ok readEntry_spec)

variable {α β : Type}

/-- What is read from the front of an input is read the same whatever follows the input, and what
follows is left over. -/
structure Delimited (read : Bytes → Read α) : Prop where
  append : ∀ {input rest : Bytes} {x : α}, read input = .ok (x, rest) →
    ∀ more, read (input ++ more) = .ok (x, rest ++ more)

/-! ### Words and byte strings -/

/-- The first bytes are the same when more follow, if there are enough of them. -/
theorem delimited_front (n : Nat) (f : Bytes → α) (short : Bytes → ReadError) :
    Delimited fun input =>
      if (input.take n).length < n then .error (short (input.take n))
      else .ok (f (input.take n), input.drop n) where
  append := by
    intro input rest x h more
    by_cases hshort : (input.take n).length < n
    · rw [if_pos hshort] at h
      cases h
    · rw [if_neg hshort] at h
      obtain ⟨rfl, rfl⟩ := Prod.mk.inj (Except.ok.inj h)
      have hlen : n ≤ input.length := by
        have hle := List.length_take_le' n input
        omega
      rw [List.take_append_of_le_length hlen, List.drop_append_of_le_length hlen, if_neg hshort]

/-- A word takes as many bytes as it is wide. -/
theorem delimited_readWord (width : Nat) : Delimited (readWord width) := by
  have hfront : readWord width = fun input =>
      if (input.take width).length < width then .error .noData
      else .ok (Bytes.ofBigEndian (input.take width), input.drop width) := by
    funext input
    rw [readWord, List.splitAt_eq]
  rw [hfront]
  exact delimited_front width Bytes.ofBigEndian fun _ => .noData

/-- Bytes are taken by their number. -/
theorem delimited_readBytes (n : Nat) : Delimited (readBytes n) := by
  have hfront : readBytes n = fun input =>
      if (input.take n).length < n then .error (.short n (input.take n).length)
      else .ok (input.take n, input.drop n) := by
    funext input
    rw [readBytes, List.splitAt_eq]
  rw [hfront]
  exact delimited_front n id fun data => .short n data.length

/-- A count takes no byte, or those of its word. -/
theorem delimited_count (count : Count) : Delimited count.read := by
  cases count with
  | fixed n =>
    -- the length stands in the marker, and nothing is read for it
    refine ⟨fun {input rest m} h more => ?_⟩
    obtain ⟨rfl, rfl⟩ := Prod.mk.inj (Except.ok.inj h)
    rfl
  | word width => exact delimited_readWord width

/-! ### Parts in turn -/

/-- Making an object of what was read leaves alone what follows. -/
theorem Delimited.map {read : Bytes → Read α} (h : Delimited read) (f : α → β) :
    Delimited fun input => (read input).map f where
  append := by
    intro input rest y hread more
    obtain ⟨x, hx, rfl⟩ := exists_of_map_eq_ok hread
    show (read (input ++ more)).map f = .ok (f x, rest ++ more)
    rw [h.append hx more, Read.map]

/-- A length is read, and then what it is the length of. -/
theorem Delimited.counted {body : Nat → Bytes → Read α} (h : ∀ n, Delimited (body n))
    (count : Count) :
    Delimited fun input =>
      (match count.read input with
      | .error e => .error e
      | .ok (n, tail) => body n tail : Read α) where
  append := by
    intro input rest x hread more
    split at hread
    · cases hread
    · rename_i n tail hn
      rw [(delimited_count count).append hn more]
      exact (h n).append hread more

/-- A budget that is used up is used up whatever follows. -/
theorem Delimited.unless {read : Bytes → Read α} (h : Delimited read) (p : Prop) [Decidable p] :
    Delimited fun input => if p then .error .depthLimit else read input where
  append := by
    intro input rest x hread more
    by_cases hp : p
    · rw [if_pos hp] at hread
      cases hread
    · rw [if_neg hp] at hread ⊢
      exact h.append hread more

/-- One item after the other. The items that are read already stay as they are, so the induction
is on the number of those that are left. -/
theorem Delimited.items {item : Bytes → Read α} (h : Delimited item) (n : Nat) (done : List α) :
    Delimited (readItems item n done) := by
  induction n generalizing done with
  | zero =>
    refine ⟨fun {input rest xs} hread more => ?_⟩
    obtain ⟨rfl, rfl⟩ := Prod.mk.inj (Except.ok.inj hread)
    rfl
  | succ n ih =>
    refine ⟨fun {input rest xs} hread more => ?_⟩
    rw [readItems] at hread ⊢
    split at hread
    · cases hread
    · rename_i x tail hx
      rw [h.append hx more]
      exact (ih (x :: done)).append hread more

/-- A key, and the value behind it. -/
theorem Delimited.entry {item : Bytes → Read α} (h : Delimited item) :
    Delimited (readEntry item) where
  append := by
    intro input rest entry hread more
    obtain ⟨tail, hk, hx⟩ := readEntry_spec hread
    rw [readEntry, h.append hk more]
    dsimp only
    rw [h.append hx more]

/-- The data of an extension are delimited by their length. -/
theorem delimited_readExt (levels n : Nat) : Delimited (readExt levels n) where
  append := by
    intro input rest x h more
    unfold readExt at h ⊢
    by_cases hnone : levels = 0
    · rw [if_pos hnone] at h
      cases h
    rw [if_neg hnone] at h ⊢
    cases input with
    | nil => cases h
    | cons tag data =>
      -- the tag is the first byte, and the data is delimited by its length
      have hdata : Delimited fun input =>
          if levels = 1 then .error .depthLimit
          else (readBytes n input).map (Object.ext tag.toInt8) :=
        ((delimited_readBytes n).map _).unless _
      exact hdata.append h more

/-! ### Whole objects -/

/-- Where an object ends does not depend on what follows it. -/
theorem delimited_read (levels : Nat) : Delimited (Object.read levels) := by
  -- the items of an array and of a map are read with two levels less
  induction levels using Nat.strongRecOn with
  | ind levels ih =>
  refine ⟨fun {input rest x} h more => ?_⟩
  cases levels with
  | zero => cases h
  | succ levels =>
  cases input with
  | nil => cases h
  | cons marker input =>
  rw [List.cons_append]
  rw [Object.read] at h ⊢
  -- the marker is the same as before, and each kind reads on behind it
  cases hm : Marker.ofByte marker with
  | nil =>
    rw [hm] at h
    obtain ⟨rfl, rfl⟩ := Prod.mk.inj (Except.ok.inj h)
    rfl
  | bool b =>
    rw [hm] at h
    obtain ⟨rfl, rfl⟩ := Prod.mk.inj (Except.ok.inj h)
    rfl
  | int n =>
    rw [hm] at h
    obtain ⟨rfl, rfl⟩ := Prod.mk.inj (Except.ok.inj h)
    rfl
  | unsigned width =>
    rw [hm] at h
    exact ((delimited_readWord width).map _).append h more
  | signed width =>
    rw [hm] at h
    exact ((delimited_readWord width).map _).append h more
  | float32 =>
    rw [hm] at h
    exact ((delimited_readWord 4).map _).append h more
  | float64 =>
    rw [hm] at h
    exact ((delimited_readWord 8).map _).append h more
  | string count =>
    rw [hm] at h
    have hbody (n : Nat) := ((delimited_readBytes n).map Object.string).unless (levels < 2)
    exact (Delimited.counted hbody count).append h more
  | binary count =>
    rw [hm] at h
    have hbody (n : Nat) := ((delimited_readBytes n).map Object.binary).unless (levels < 1)
    exact (Delimited.counted hbody count).append h more
  | ext count =>
    rw [hm] at h
    exact (Delimited.counted (delimited_readExt levels) count).append h more
  | array count =>
    rw [hm] at h
    cases levels with
    | zero =>
      -- without a second level the items are not even begun
      dsimp only at h
      split at h <;> cases h
    | succ inner =>
      have hitem : Delimited (Object.read inner) := ih inner (by omega)
      have hbody (n : Nat) := (hitem.items n []).map Object.array
      exact (Delimited.counted hbody count).append h more
  | map count =>
    rw [hm] at h
    cases levels with
    | zero =>
      dsimp only at h
      split at h <;> cases h
    | succ inner =>
      have hitem : Delimited (Object.read inner) := ih inner (by omega)
      have hbody (n : Nat) := (hitem.entry.items n []).map Object.map
      exact (Delimited.counted hbody count).append h more

end Courier.MessagePack

namespace Courier.Codec

open Courier.MessagePack (Object delimited_read levelLimit)

variable {c : Codec} {b : Bytes}

/-! ### Documents -/

/-- Bytes in which no object can be read are refused as malformed. -/
theorem decode_of_read_error {cause : MessagePack.ReadError}
    (h : Object.read levelLimit b = .error cause) : c.decode b = .error (.malformed cause) := by
  rw [decode, h]

/-- Bytes behind an object are counted, whatever the object means. -/
theorem decode_of_read_rest {x : Object} {rest : Bytes}
    (h : Object.read levelLimit b = .ok (x, rest)) (hrest : rest ≠ []) :
    c.decode b = .error (.trailingData rest.length) := by
  cases rest with
  | nil => exact absurd rfl hrest
  | cons d rest => rw [decode, h]

/-- Bytes that are neither malformed nor too many are one object. -/
theorem exists_read_of_decode (hread : ∀ cause, c.decode b ≠ .error (.malformed cause))
    (hrest : ∀ count, c.decode b ≠ .error (.trailingData count)) :
    ∃ x, Object.read levelLimit b = .ok (x, []) := by
  cases h : Object.read levelLimit b with
  | error cause => exact absurd (decode_of_read_error h) (hread cause)
  | ok result =>
    obtain ⟨x, rest⟩ := result
    by_cases hnil : rest = []
    · exact ⟨x, by rw [hnil]⟩
    · exact absurd (decode_of_read_rest h hnil) (hrest rest.length)

/-- A document is one object, and it is delimited by itself. Every proper beginning of it is
malformed, the empty one too, and whatever is put behind it is trailing data. This needs no
document that has a meaning: it is enough that it is neither malformed nor followed by more
bytes. -/
theorem decode_delimited (hread : ∀ cause, c.decode b ≠ .error (.malformed cause))
    (hrest : ∀ count, c.decode b ≠ .error (.trailingData count)) :
    (∃ x, Object.read levelLimit b = .ok (x, [])) ∧
    (∀ front, front <+: b → front ≠ b → ∃ cause, c.decode front = .error (.malformed cause)) ∧
    ∀ more, more ≠ [] → c.decode (b ++ more) = .error (.trailingData more.length) := by
  obtain ⟨x, hx⟩ := exists_read_of_decode hread hrest
  refine ⟨⟨x, hx⟩, ?_, ?_⟩
  · rintro front ⟨cut, rfl⟩ hproper
    cases hfront : Object.read levelLimit front with
    | error cause => exact ⟨cause, decode_of_read_error hfront⟩
    | ok result =>
      -- an object that is all in the beginning leaves the bytes over that were cut off
      obtain ⟨y, rest⟩ := result
      have hwhole := (delimited_read levelLimit).append hfront cut
      have hover : [] = rest ++ cut := (Prod.mk.inj (Except.ok.inj (hx.symm.trans hwhole))).2
      have hcut : cut = [] := (List.append_eq_nil_iff.mp hover.symm).2
      exact absurd (by rw [hcut, List.append_nil]) hproper
  · intro more hmore
    exact decode_of_read_rest ((delimited_read levelLimit).append hx more) hmore

/-- An array of a timestamp that is too short and a map with a number for a key. It is an object
all the same. -/
def senseless : Bytes := [0x92, 0xc7, 3, 5, 1, 2, 3, 0x81, 7, 0xa2, 0x6f, 0x6b]

/-- Either codec refuses it for a reason of its own, but if its last byte is missing it is
malformed, and if a byte follows there is a byte too many. -/
theorem decode_delimited_senseless :
    standard.decode senseless = .error (.timestampTooShort 12 3) ∧
    bare.decode senseless = .error (.nonStringKey "7") ∧
    (∃ cause, standard.decode (senseless.take 11) = .error (.malformed cause)) ∧
    (∃ cause, bare.decode [] = .error (.malformed cause)) ∧
    standard.decode (senseless ++ [0xc0]) = .error (.trailingData 1) ∧
    bare.decode (senseless ++ senseless) = .error (.trailingData 12) := by
  have hstandard : standard.decode senseless = .error (.timestampTooShort 12 3) := by cbv
  have hbare : bare.decode senseless = .error (.nonStringKey "7") := by cbv
  obtain ⟨-, hcut, hmore⟩ := decode_delimited (c := standard) (b := senseless)
    (by simp [hstandard]) (by simp [hstandard])
  obtain ⟨-, hcut', hmore'⟩ := decode_delimited (c := bare) (b := senseless)
    (by simp [hbare]) (by simp [hbare])
  exact ⟨hstandard, hbare, hcut _ (List.take_prefix 11 senseless) (by decide),
    hcut' _ List.nil_prefix (by decide), hmore [0xc0] (by decide), hmore' senseless (by decide)⟩

end Courier.Codec
