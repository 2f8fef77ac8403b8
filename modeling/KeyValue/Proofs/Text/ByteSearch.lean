import KeyValue.Pair
import KeyValue.Proofs.Text.LossyDecoding

/-!
This module contains the search for a character in the bytes of a text. The bytes of a character
occur only where the character itself stands, so a search in the bytes finds the separator of an
entry where a search in the characters does.
-/

namespace KeyValue

theorem prefix_of_append_cons_eq {α : Type} {x : α} {as bs as' bs' : List α}
    (h : as ++ x :: bs = as' ++ x :: bs') (hx : x ∉ as) : as <+: as' := by
  rw [List.append_eq_append_iff] at h
  cases h with
  | inl h =>
    obtain ⟨more, has', _⟩ := h
    exact ⟨more, has'.symm⟩
  | inr h =>
    obtain ⟨more, has, hmore⟩ := h
    cases more with
    | nil => simp [has]
    | cons y more =>
      rw [List.cons_append, List.cons.injEq] at hmore
      rw [has, ← hmore.1] at hx
      simp at hx

namespace Text.Utf8

def OccursAt (needle bytes : List UInt8) (offset : Nat) : Prop :=
  needle <+: bytes.drop offset

structure FirstOccursAt (needle bytes : List UInt8) (offset : Nat) : Prop where
  occurs : OccursAt needle bytes offset
  not_occurs_of_lt : ∀ i < offset, ¬OccursAt needle bytes i

def IsContinuation (b : UInt8) : Prop :=
  0x80 ≤ b.toNat ∧ b.toNat ≤ 0xBF

theorem Encodes.not_isContinuation {c : Char} {b : UInt8} {bs : List UInt8}
    (h : Encodes c (b :: bs)) : ¬IsContinuation b := by
  have hvalid := toNat_lt c
  unfold IsContinuation
  cases h <;> omega

theorem Encodes.isContinuation_of_mem {c : Char} {b x : UInt8} {bs : List UInt8}
    (h : Encodes c (b :: bs)) (hx : x ∈ bs) : IsContinuation x := by
  unfold IsContinuation
  cases h <;> grind

theorem exists_utf8EncodeChar_eq_cons (c : Char) :
    ∃ b bs, String.utf8EncodeChar c = b :: bs ∧ ¬IsContinuation b
      ∧ ∀ x ∈ bs, IsContinuation x := by
  have h := encodes_utf8EncodeChar c
  cases hbytes : String.utf8EncodeChar c with
  | nil => exact absurd hbytes String.utf8EncodeChar_ne_nil
  | cons b bs =>
    rw [hbytes] at h
    exact ⟨b, bs, rfl, h.not_isContinuation, fun _ => h.isContinuation_of_mem⟩

theorem not_occursAt_nil {c : Char} {offset : Nat} :
    ¬OccursAt (String.utf8EncodeChar c) [] offset := by
  rw [OccursAt, List.drop_nil, List.prefix_nil]
  exact String.utf8EncodeChar_ne_nil

theorem occursAt_append_iff {c d : Char} {bytes : List UInt8} {offset : Nat} :
    OccursAt (String.utf8EncodeChar c) (String.utf8EncodeChar d ++ bytes) offset ↔
      (offset = 0 ∧ c = d) ∨ ∃ i, offset = (String.utf8EncodeChar d).length + i
        ∧ OccursAt (String.utf8EncodeChar c) bytes i := by
  constructor
  . intro h
    by_cases hlength : (String.utf8EncodeChar d).length ≤ offset
    . obtain ⟨i, rfl⟩ := Nat.exists_eq_add_of_le hlength
      rw [OccursAt, List.drop_length_add_append] at h
      exact .inr ⟨i, rfl, h⟩
    obtain ⟨tail, htail⟩ := h
    cases offset with
    | zero => exact .inl ⟨rfl, (utf8EncodeChar_append_inj htail).1⟩
    | succ i =>
      -- What is left of `d` begins with a byte that no character begins with.
      obtain ⟨b, bs, hd, _, hbs⟩ := exists_utf8EncodeChar_eq_cons d
      obtain ⟨b', bs', hc, hb', _⟩ := exists_utf8EncodeChar_eq_cons c
      rw [hd, List.length_cons] at hlength
      rw [hd, hc, List.cons_append, List.cons_append, List.drop_succ_cons] at htail
      have hi : i < bs.length := by omega
      rw [List.drop_append_of_le_length (Nat.le_of_lt hi), List.drop_eq_getElem_cons hi,
        List.cons_append, List.cons.injEq] at htail
      rw [htail.1] at hb'
      exact absurd (hbs _ (List.getElem_mem hi)) hb'
  . intro h
    cases h with
    | inl h =>
      rw [h.1, h.2]
      apply List.prefix_append
    | inr h =>
      obtain ⟨i, rfl, h⟩ := h
      rw [OccursAt, List.drop_length_add_append]
      exact h

theorem occursAt_flatMap_iff {c : Char} {cs : List Char} {offset : Nat} :
    OccursAt (String.utf8EncodeChar c) (cs.flatMap String.utf8EncodeChar) offset ↔
      ∃ front back, cs = front ++ c :: back
        ∧ offset = (front.flatMap String.utf8EncodeChar).length := by
  induction cs generalizing offset with
  | nil => simp [not_occursAt_nil]
  | cons d cs ih =>
    rw [List.flatMap_cons, occursAt_append_iff]
    simp only [ih]
    constructor
    . intro h
      cases h with
      | inl h =>
        rw [h.1, h.2]
        exact ⟨[], cs, rfl, rfl⟩
      | inr h =>
        obtain ⟨_, rfl, front, back, rfl, rfl⟩ := h
        refine ⟨d :: front, back, rfl, ?_⟩
        rw [List.flatMap_cons, List.length_append]
    . intro ⟨front, back, hcs, hoffset⟩
      cases front with
      | nil =>
        rw [List.nil_append, List.cons.injEq] at hcs
        exact .inl ⟨hoffset, hcs.1.symm⟩
      | cons e front =>
        rw [List.cons_append, List.cons.injEq] at hcs
        rw [List.flatMap_cons, List.length_append, ← hcs.1] at hoffset
        exact .inr ⟨_, hoffset, front, back, hcs.2, rfl⟩

theorem firstOccursAt_flatMap_append_cons_iff {c : Char} {front back : List Char} :
    FirstOccursAt (String.utf8EncodeChar c)
        ((front ++ c :: back).flatMap String.utf8EncodeChar)
        (front.flatMap String.utf8EncodeChar).length ↔
      c ∉ front := by
  constructor
  . intro h hmem
    obtain ⟨as, bs, rfl⟩ := List.append_of_mem hmem
    have hpos : 0 < (String.utf8EncodeChar c).length :=
      List.length_pos_iff.mpr String.utf8EncodeChar_ne_nil
    apply h.not_occurs_of_lt (as.flatMap String.utf8EncodeChar).length
    . rw [List.flatMap_append, List.flatMap_cons, List.length_append, List.length_append]
      omega
    . rw [occursAt_flatMap_iff]
      refine ⟨as, bs ++ c :: back, ?_, rfl⟩
      rw [List.append_assoc, List.cons_append]
  . intro hc
    constructor
    . rw [occursAt_flatMap_iff]
      exact ⟨front, back, rfl, rfl⟩
    . intro i hi h
      obtain ⟨front', back', heq, rfl⟩ := occursAt_flatMap_iff.mp h
      obtain ⟨more, rfl⟩ := prefix_of_append_cons_eq heq hc
      rw [List.flatMap_append, List.length_append] at hi
      omega

theorem length_encode (s : String) : (encode s).length = s.utf8ByteSize := by
  rw [← String.size_toByteArray, ← String.toUTF8_eq_toByteArray, toUTF8_eq_iff.mpr rfl,
    List.size_toByteArray]

theorem encode_singleton (c : Char) : encode (String.singleton c) = String.utf8EncodeChar c := by
  simp [encode]

theorem occursAt_encode_iff {c : Char} {s : String} {offset : Nat} :
    OccursAt (String.utf8EncodeChar c) (encode s) offset ↔
      ∃ front back, s = front ++ String.singleton c ++ back ∧ offset = front.utf8ByteSize := by
  rw [encode, occursAt_flatMap_iff]
  constructor
  . rintro ⟨front, back, hs, hoffset⟩
    refine ⟨String.ofList front, String.ofList back, ?_, ?_⟩
    . rw [← String.toList_inj, hs]
      simp
    . rw [hoffset, ← length_encode, encode, String.toList_ofList]
  . rintro ⟨front, back, hs, hoffset⟩
    refine ⟨front.toList, back.toList, ?_, ?_⟩
    . rw [hs]
      simp
    . rw [hoffset, ← length_encode, encode]

theorem exists_occursAt_encode_iff {c : Char} {s : String} :
    (∃ offset, OccursAt (String.utf8EncodeChar c) (encode s) offset) ↔ c ∈ s.toList := by
  simp only [encode, occursAt_flatMap_iff]
  constructor
  . rintro ⟨_, front, back, hs, _⟩
    rw [hs]
    apply List.mem_append_right front List.mem_cons_self
  . intro hmem
    obtain ⟨front, back, hs⟩ := List.append_of_mem hmem
    exact ⟨_, front, back, hs, rfl⟩

end Text.Utf8

namespace Pair

open Text.Utf8

theorem toEntry_eq_append (separator : Char) (p : Pair) :
    p.toEntry separator = p.key ++ String.singleton separator ++ p.value := by
  rw [toEntry, String.append_singleton]

theorem ofEntry?_cuts_at_first_occurrence (separator : Char) (entry : String) :
    (∀ s, s.toUTF8 = (encode s).toByteArray)
    ∧ (∀ p, ofEntry? separator entry = some p ↔
      entry = p.key ++ String.singleton separator ++ p.value ∧ separator ∉ p.key.toList)
    ∧ (separator ∉ entry.toList ↔ ofEntry? separator entry = none)
    ∧ (∀ p, ofEntry? separator entry = some p ↔
      entry = p.key ++ String.singleton separator ++ p.value
        ∧ FirstOccursAt (encode (String.singleton separator)) (encode entry) p.key.utf8ByteSize)
    ∧ ((∀ offset, ¬OccursAt (encode (String.singleton separator)) (encode entry) offset) ↔
      ofEntry? separator entry = none)
    ∧ ∀ offset, OccursAt (encode (String.singleton separator)) (encode entry) offset ↔
      ∃ front back, entry = front ++ String.singleton separator ++ back
        ∧ offset = front.utf8ByteSize := by
  have hsome (p : Pair) : ofEntry? separator entry = some p ↔
      entry = p.key ++ String.singleton separator ++ p.value ∧ separator ∉ p.key.toList := by
    rw [ofEntry?_eq_some_iff, toEntry_eq_append, and_comm, eq_comm]
  rw [encode_singleton]
  refine ⟨?_, hsome, ?_, ?_, ?_, ?_⟩
  . intro s
    rw [toUTF8_eq_iff]
  . rw [ofEntry?_eq_none_iff]
  . intro p
    rw [hsome]
    apply and_congr_right
    intro hentry
    rw [hentry, ← toEntry_eq_append, ← length_encode, encode, encode, toList_toEntry,
      firstOccursAt_flatMap_append_cons_iff]
  . rw [ofEntry?_eq_none_iff, ← exists_occursAt_encode_iff, not_exists]
  . intro offset
    apply occursAt_encode_iff

end Pair
end KeyValue
