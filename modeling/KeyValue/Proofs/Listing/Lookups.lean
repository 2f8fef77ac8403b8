import KeyValue.Proofs.Listing.Enumeration

namespace KeyValue

namespace Listing

variable {l l' : Listing}

theorem beq_iff_table_eq : (l == l') = true ↔ l.table = l'.table := by
  exact beq_iff_eq (a := l.table)

theorem table_eq_iff_get?_eq : l.table = l'.table ↔ ∀ key, l.get? key = l'.get? key := by
  constructor
  . intro h key
    rw [get?, get?, h]
  . intro h
    apply Std.ExtTreeMap.ext_getElem?
    exact h

theorem get?_eq_of_table_eq {ps : List Pair} (h : l.table = .ofPairs ps) (key : String) :
    l.get? key = (ps.filter (·.key = key)).getLast?.map Pair.value := by
  rw [get?, h, Table.getElem?_ofPairs]

theorem size_eq_of_table_eq {ps : List Pair} (h : l.table = .ofPairs ps) :
    l.size = (ps.map Pair.key).dedup.length := by
  rw [size, h, Table.size_ofPairs]

theorem ofPairs_order (l : Listing) : Table.ofPairs l.order = l.table :=
  (Table.toPairs_perm_iff.mp l.perm.symm).1.symm

theorem nodup_keys_order (l : Listing) : (l.order.map Pair.key).Nodup :=
  (Table.toPairs_perm_iff.mp l.perm.symm).2

theorem collect_of_source (l : Listing) :
    ({ source := .listing l } : Pipeline).collect = .ok l.order := by
  rw [Pipeline.collect_of_source]
  rfl

theorem toTable_of_source (l : Listing) :
    ({ source := .listing l } : Pipeline).toTable = .ok l.table := by
  rw [Pipeline.toTable_eq, collect_of_source, ← ofPairs_order]
  rfl

theorem known_by_lookups (xs : List Pair) (l l' : Listing) (h : l.table = (ofPairs xs).table) :
    let pipeline : Pipeline := { source := .listing l }
    (∀ key, l.get? key = (xs.filter (·.key = key)).getLast?.map Pair.value)
    ∧ ((l == l') = true ↔ ∀ key, l.get? key = l'.get? key)
    ∧ l.size = (xs.map Pair.key).dedup.length
    ∧ (∀ (σ ε : Type) (f : Callback (StateM σ) ε) (s : σ),
      let run := (pipeline.visit f.recorded).outcome (s, [])
      (run.2.2.map Pair.key).Nodup ∧ (run.1 = .ok () → run.2.2.length = l.size))
    ∧ ∃ ps t, pipeline.collect = .ok ps ∧ pipeline.toTable = .ok t
      ∧ (ofPairs ps == l) = true ∧ (ofTable t == l) = true ∧ l.table = t := by
  intro pipeline
  refine ⟨?_, ?_, ?_, ?_, l.order, l.table, ?_, ?_, ?_, ?_, rfl⟩
  . apply get?_eq_of_table_eq h
  . rw [beq_iff_table_eq, table_eq_iff_get?_eq]
  . apply size_eq_of_table_eq h
  . intro σ ε f s run
    have hrun : run = (l.delivery.visit f.recorded).outcome (s, []) := by
      simp only [run, pipeline, Pipeline.visit_of_source]
      rfl
    constructor
    . have hseen : run.2.2 <+: l.order := by
        rw [hrun]
        apply l.delivery.seen_outcome_visit_recorded_isPrefix
      apply List.Nodup.sublist _ l.nodup_keys_order
      apply hseen.sublist.map
    . intro hok
      have hseen := l.delivery.outcome_visit_recorded_eq_ok_iff f s run.2.1 run.2.2
      rw [← hrun] at hseen
      rw [(hseen.mp (Prod.ext hok rfl)).2.2]
      apply length_order
  . apply collect_of_source
  . apply toTable_of_source
  . rw [beq_iff_table_eq]
    apply ofPairs_order
  . rw [beq_iff_table_eq]
    rfl

theorem known_by_lookups_reverse :
    let xs : List Pair := [⟨"A", "1"⟩, ⟨"B", "2"⟩, ⟨"A", "3"⟩]
    let l := (ofPairs xs).reverse
    let run := (({ source := .listing l } : Pipeline).visit
      (Callback.stopping fun _ _ => false).recorded).outcome ([], [])
    l.table = (ofPairs xs).table
    ∧ l.order ≠ (ofPairs xs).order
    ∧ l.get? "A" = some "3" ∧ l.get? "C" = none ∧ l.size = 2
    ∧ (l == ofPairs xs) = true
    ∧ (run.2.2.map Pair.key).Nodup ∧ run.1 = .ok () ∧ run.2.2.length = 2
    ∧ ∃ ps t, ({ source := .listing l } : Pipeline).collect = .ok ps
      ∧ ({ source := .listing l } : Pipeline).toTable = .ok t
      ∧ (ofPairs ps == l) = true ∧ (ofTable t == l) = true ∧ l.table = t := by
  intro xs l run
  obtain ⟨hget, hequal, hsize, hrun, hrebuilt⟩ := known_by_lookups xs l (ofPairs xs) rfl
  obtain ⟨hnodup, hlength⟩ := hrun _ _ (Callback.stopping fun _ _ => false) []
  have hok : run.1 = .ok () := by rfl
  have hdedup : l.size = 2 := by
    rw [hsize]
    decide
  refine ⟨rfl, by decide, ?_, ?_, hdedup, ?_, hnodup, hok, ?_, hrebuilt⟩
  . rw [hget]
    decide
  . rw [hget]
    decide
  . rw [hequal]
    intro key
    rfl
  . rw [hlength hok, hdedup]

end Listing

end KeyValue
