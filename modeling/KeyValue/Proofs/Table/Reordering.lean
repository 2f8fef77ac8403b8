import KeyValue.Proofs.Table.LastValue

namespace KeyValue

namespace Table

theorem store_comm (t : Table) {p q : Pair} (h : p.key = q.key → p.value = q.value) :
    (t.store p).store q = (t.store q).store p := by
  apply Std.ExtTreeMap.ext_getElem?
  intro key
  simp only [getElem?_store]
  by_cases hq : q.key = key
  . by_cases hp : p.key = key
    . have hvalue := h (hp.trans hq.symm)
      simp [hp, hq, hvalue]
    . simp [hp, hq]
  . simp [hq]

theorem ofPairs_eq_of_perm {ps qs : List Pair} (hperm : ps.Perm qs)
    (h : ∀ p ∈ ps, ∀ q ∈ ps, p.key = q.key → p.value = q.value) : ofPairs ps = ofPairs qs := by
  apply hperm.foldl_eq'
  intro p hp q hq t
  apply store_comm t (h p hp q hq)

theorem ofPairs_eq_of_perm_of_nodup {ps qs : List Pair} (hperm : ps.Perm qs)
    (h : (ps.map Pair.key).Nodup) : ofPairs ps = ofPairs qs := by
  apply ofPairs_eq_of_perm hperm
  intro p hp q hq hkey
  rw [List.inj_on_of_nodup_map h hp hq hkey]

theorem nodup_keys_toPairs (t : Table) : (t.toPairs.map Pair.key).Nodup := by
  have hkeys : t.toPairs.map Pair.key = t.keys := by
    rw [toPairs, List.map_map, ← Std.ExtTreeMap.map_fst_toList_eq_keys]
    rfl
  rw [hkeys]
  apply Std.ExtTreeMap.nodup_keys

theorem toPairs_perm_iff {t : Table} {ps : List Pair} :
    t.toPairs.Perm ps ↔ t = ofPairs ps ∧ (ps.map Pair.key).Nodup := by
  constructor
  . intro hperm
    have hnodup : (ps.map Pair.key).Nodup := by
      rw [← (hperm.map Pair.key).nodup_iff]
      apply nodup_keys_toPairs
    refine ⟨?_, hnodup⟩
    apply Std.ExtTreeMap.ext_getElem?
    intro key
    apply Option.ext
    intro value
    rw [getElem?_ofPairs_eq_some_iff, Pair.isLastIn_iff_mem_of_nodup hnodup, ← hperm.mem_iff,
      mem_toPairs]
  . intro ⟨ht, hnodup⟩
    rw [ht, List.perm_ext_iff_of_nodup (nodup_keys_toPairs _).of_map hnodup.of_map]
    intro p
    rw [mem_toPairs, getElem?_ofPairs_eq_some_iff, Pair.isLastIn_iff_mem_of_nodup hnodup]

end Table

end KeyValue
