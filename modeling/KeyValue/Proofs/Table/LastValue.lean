import KeyValue.Table
import Mathlib.Data.List.Dedup
import Mathlib.Data.List.Induction

namespace KeyValue

def Pair.IsLastIn (p : Pair) (ps : List Pair) : Prop :=
  ∃ front back, ps = front ++ p :: back ∧ ∀ q ∈ back, q.key ≠ p.key

theorem Pair.not_isLastIn_nil (p : Pair) : ¬p.IsLastIn [] := by
  intro ⟨front, back, h, _⟩
  simp at h

theorem Pair.IsLastIn.mem {p : Pair} {ps : List Pair} (h : p.IsLastIn ps) : p ∈ ps := by
  obtain ⟨front, back, hps, _⟩ := h
  rw [hps]
  simp

theorem Pair.isLastIn_cons_iff {p q : Pair} {ps : List Pair} :
    p.IsLastIn (q :: ps) ↔ p.IsLastIn ps ∨ q = p ∧ ∀ r ∈ ps, r.key ≠ p.key := by
  constructor
  . intro ⟨front, back, h, hback⟩
    cases front with
    | nil =>
      obtain ⟨hq, hps⟩ := List.cons.inj h
      rw [hps]
      exact .inr ⟨hq, hback⟩
    | cons r front =>
      obtain ⟨_, hps⟩ := List.cons.inj h
      exact .inl ⟨front, back, hps, hback⟩
  . intro h
    cases h with
    | inl h =>
      obtain ⟨front, back, hps, hback⟩ := h
      refine ⟨q :: front, back, ?_, hback⟩
      rw [hps]
      rfl
    | inr h =>
      obtain ⟨hq, hps⟩ := h
      rw [hq]
      exact ⟨[], ps, rfl, hps⟩

theorem Pair.isLastIn_iff_mem_of_nodup {p : Pair} {ps : List Pair}
    (h : (ps.map Pair.key).Nodup) : p.IsLastIn ps ↔ p ∈ ps := by
  constructor
  . exact IsLastIn.mem
  . intro hmem
    obtain ⟨front, back, rfl⟩ := List.append_of_mem hmem
    refine ⟨front, back, rfl, ?_⟩
    rw [List.map_append, List.map_cons, List.nodup_append, List.nodup_cons, List.mem_map] at h
    intro q hq hkey
    exact h.2.1.1 ⟨q, hq, hkey⟩

namespace Table

theorem getElem?_foldl_store_eq_some_iff {t : Table} {ps : List Pair} {key value : String} :
    (ps.foldl store t)[key]? = some value ↔
      Pair.IsLastIn { key, value } ps ∨ t[key]? = some value ∧ ∀ p ∈ ps, p.key ≠ key := by
  induction ps generalizing t with
  | nil => simp [Pair.not_isLastIn_nil]
  | cons p ps ih =>
    rw [List.foldl_cons, ih, Pair.isLastIn_cons_iff, getElem?_store, List.forall_mem_cons]
    by_cases hkey : p.key = key
    . have hp : p = { key, value } ↔ p.value = value := by
        obtain ⟨pkey, pvalue⟩ := p
        simp only at hkey
        simp [hkey]
      simp [hkey, hp]
    . have hp : p ≠ { key, value } := by
        intro h
        apply hkey
        rw [h]
      simp [hkey, hp]

theorem getElem?_ofPairs_eq_some_iff {ps : List Pair} {key value : String} :
    (ofPairs ps)[key]? = some value ↔ Pair.IsLastIn { key, value } ps := by
  rw [ofPairs, getElem?_foldl_store_eq_some_iff]
  simp

theorem ofPairs_append_singleton (ps : List Pair) (p : Pair) :
    ofPairs (ps ++ [p]) = (ofPairs ps).store p := by
  rw [ofPairs, List.foldl_append]
  rfl

theorem getElem?_ofPairs (ps : List Pair) (key : String) :
    (ofPairs ps)[key]? = (ps.filter (·.key = key)).getLast?.map Pair.value := by
  induction ps using List.reverseRecOn with
  | nil => rfl
  | append_singleton ps p ih =>
    rw [ofPairs_append_singleton, getElem?_store, ih, List.filter_append]
    by_cases hkey : p.key = key
    . simp [hkey]
    . simp [hkey]

theorem mem_of_getElem?_ofPairs {ps : List Pair} {key value : String}
    (h : (ofPairs ps)[key]? = some value) : { key, value } ∈ ps := by
  rw [getElem?_ofPairs_eq_some_iff] at h
  exact h.mem

theorem mem_foldl_store_iff {t : Table} {ps : List Pair} {key : String} :
    key ∈ ps.foldl store t ↔ key ∈ ps.map Pair.key ∨ key ∈ t := by
  induction ps generalizing t with
  | nil => simp
  | cons p ps ih =>
    rw [List.foldl_cons, ih, store, Std.ExtTreeMap.mem_insert, List.map_cons, List.mem_cons,
      Std.LawfulEqCmp.compare_eq_iff_eq]
    grind

theorem mem_ofPairs_iff {ps : List Pair} {key : String} :
    key ∈ ofPairs ps ↔ key ∈ ps.map Pair.key := by
  rw [ofPairs, mem_foldl_store_iff]
  simp

theorem getElem?_ofPairs_eq_none_iff {ps : List Pair} {key : String} :
    (ofPairs ps)[key]? = none ↔ ∀ p ∈ ps, p.key ≠ key := by
  have hmem : key ∈ ofPairs ps ↔ ∃ p ∈ ps, p.key = key := by
    rw [mem_ofPairs_iff, List.mem_map]
  rw [← Option.not_isSome_iff_eq_none, ← Std.ExtTreeMap.mem_iff_isSome_getElem?, hmem]
  simp

theorem size_ofPairs (ps : List Pair) : (ofPairs ps).size = (ps.map Pair.key).dedup.length := by
  have hnodup : (ofPairs ps).keys.Nodup := by
    apply Std.ExtTreeMap.nodup_keys
  rw [← Std.ExtTreeMap.length_keys]
  apply List.Perm.length_eq
  rw [List.perm_ext_iff_of_nodup hnodup (List.nodup_dedup _)]
  intro key
  rw [Std.ExtTreeMap.mem_keys, mem_ofPairs_iff, List.mem_dedup]

theorem size_ofPairs_eq_length_iff {ps : List Pair} :
    (ofPairs ps).size = ps.length ↔ (ps.map Pair.key).Nodup := by
  rw [size_ofPairs, ← List.dedup_eq_self, ← (List.dedup_sublist _).length_eq, List.length_map]

end Table

end KeyValue
