import KeyValue.Environment
import KeyValue.Proofs.Text.LossyDecoding

/-!
This module contains what becomes of the bytes of a variable in its entry: as long as no byte is
malformed they are the bytes of the entry, and in any case it does not matter whether name and value
are decoded apart or joined.
-/

namespace KeyValue

theorem append_cons_inj_of_count_eq {α : Type} [BEq α] [LawfulBEq α] {x : α}
    {as bs as' bs' : List α} (h : as ++ x :: bs = as' ++ x :: bs')
    (hcount : as.count x = as'.count x) : as = as' ∧ bs = bs' := by
  induction as generalizing as' with
  | nil =>
    cases as' with
    | nil => exact ⟨rfl, (List.cons.inj h).2⟩
    | cons a as' =>
      rw [List.nil_append, List.cons_append, List.cons.injEq] at h
      rw [← h.1, List.count_nil, List.count_cons_self] at hcount
      omega
  | cons a as ih =>
    cases as' with
    | nil =>
      rw [List.nil_append, List.cons_append, List.cons.injEq] at h
      rw [h.1, List.count_nil, List.count_cons_self] at hcount
      omega
    | cons a' as' =>
      rw [List.cons_append, List.cons_append, List.cons.injEq] at h
      rw [h.1, List.count_cons, List.count_cons, Nat.add_right_cancel_iff] at hcount
      obtain ⟨has, hbs⟩ := ih h.2 hcount
      rw [h.1, has]
      exact ⟨rfl, hbs⟩

namespace Variable

open Text.Utf8

theorem toEntry_eq_append (v : Variable) :
    v.toEntry = (decodeLossy v.name).push '=' ++ decodeLossy v.value := rfl

theorem toEntry_eq_decodeLossy (v : Variable) :
    v.toEntry = decodeLossy (v.name ++ 0x3D :: v.value) := by
  rw [decodeLossy_append_cons v.name v.value (by decide)]
  rfl

theorem count_toList_toEntry (v : Variable) :
    v.toEntry.toList.count '=' = v.name.count 0x3D + v.value.count 0x3D + 1 := by
  have hcount := count_decodeLossy (v.name ++ 0x3D :: v.value) (b := 0x3D) (by decide)
  rw [List.count_append, List.count_cons_self, ← Nat.add_assoc] at hcount
  rw [toEntry_eq_decodeLossy, ← hcount]
  rfl

theorem encode_toEntry (v : Variable) :
    encode v.toEntry = encode (decodeLossy v.name) ++ 0x3D :: encode (decodeLossy v.value) := by
  have hpush : encode ((decodeLossy v.name).push '=') = encode (decodeLossy v.name) ++ [0x3D] := by
    rw [← String.append_singleton, encode_append]
    rfl
  rw [toEntry_eq_append, encode_append, hpush, List.append_assoc]
  rfl

theorem isValidUTF8_iff_encode_toEntry_eq (v : Variable) :
    v.name.toByteArray.IsValidUTF8 ∧ v.value.toByteArray.IsValidUTF8 ↔
      encode v.toEntry = v.name ++ 0x3D :: v.value := by
  rw [isValidUTF8_iff_encode_decodeLossy_eq, isValidUTF8_iff_encode_decodeLossy_eq, encode_toEntry]
  constructor
  . intro ⟨hname, hvalue⟩
    rw [hname, hvalue]
  . intro h
    -- Both sides hold as many `=` in front of the one between name and value.
    apply append_cons_inj_of_count_eq h
    rw [count_encode _ (by decide), count_decodeLossy _ (by decide)]

theorem toEntry_decodes_joined_bytes (v : Variable) :
    (∀ bs cs, decodeLossy bs = String.ofList cs ↔ Decodes bs cs)
    ∧ v.toEntry = decodeLossy v.name ++ "=" ++ decodeLossy v.value
    ∧ v.toEntry = decodeLossy (v.name ++ 0x3D :: v.value)
    ∧ v.toEntry.toList.count '=' = v.name.count 0x3D + v.value.count 0x3D + 1
    ∧ (v.name.toByteArray.IsValidUTF8 ∧ v.value.toByteArray.IsValidUTF8 ↔
      v.toEntry.toUTF8 = (v.name ++ 0x3D :: v.value).toByteArray) := by
  refine ⟨?_, ?_, ?_, ?_, ?_⟩
  . intro bs cs
    apply decodeLossy_eq_ofList_iff
  . rfl
  . apply toEntry_eq_decodeLossy
  . apply count_toList_toEntry
  . rw [toUTF8_eq_iff]
    apply isValidUTF8_iff_encode_toEntry_eq

end Variable
end KeyValue
