import KeyValue.Proofs.EntryList.RoundTrip
import KeyValue.Proofs.FlatPairs.RoundTrip
import KeyValue.Proofs.Pipeline.Fusion
import KeyValue.Proofs.Table.Reordering

namespace KeyValue

namespace Table

theorem ofEntries_toEntries (policy : MalformedPolicy) (separator : Char) (ps : List Pair) :
    ofEntries { separator, onMalformed := policy } (Pair.toEntries separator ps) =
      .ok (ofPairs (Pair.ofEntries separator (Pair.toEntries separator ps))) := by
  rw [ofEntries_eq, EntryFormat.delivery_toEntries]
  rfl

theorem ofEntries_toEntries_eq_ok_ofPairs_iff {policy : MalformedPolicy} {separator : Char}
    {ps : List Pair} :
    ofEntries { separator, onMalformed := policy } (Pair.toEntries separator ps) =
      .ok (ofPairs ps) ↔ ∀ p ∈ ps, separator ∉ p.key.toList := by
  rw [ofEntries_toEntries, Except.ok.injEq]
  constructor
  . intro h p hp
    have hkey : p.key ∈ ofPairs ps := by
      rw [mem_ofPairs_iff]
      apply List.mem_map_of_mem hp
    rw [← h, mem_ofPairs_iff, List.mem_map] at hkey
    obtain ⟨q, hq, hkey⟩ := hkey
    rw [← hkey]
    apply Pair.not_mem_key_of_mem_ofEntries hq
  . intro h
    rw [Pair.ofEntries_toEntries h]

end Table

namespace Source

theorem sources_agree_iff (policy : MalformedPolicy) (ps : List Pair) :
    let format : EntryFormat := { onMalformed := policy }
    let entries := Pair.toEntries '=' ps
    let separable := ∀ p ∈ ps, '=' ∉ p.key.toList
    ∃ flat, FlatPairs.ofList (FlatPairs.flatten ps) = .ok flat
    ∧ ((∀ stages,
      (format.pipeline entries stages).Equivalent { source := .pairs flat, stages }) ↔ separable)
    ∧ (∀ (stages : List Stage) (σ ε : Type) (f : Callback (StateM σ) ε) (s : σ)
        (e : MalformedEntry),
      (((format.pipeline entries stages).visit f).outcome s).1 ≠ .error (.source e)
      ∧ ((({ source := .pairs flat, stages } : Pipeline).visit f).outcome s).1 ≠
        .error (.source e))
    ∧ (format.pipeline entries).toTable = Table.ofEntries format entries
    ∧ (Table.ofEntries format entries = .ok (Listing.ofPairs ps).table ↔ separable)
    ∧ ({ source := .pairs flat } : Pipeline).toTable = .ok (Listing.ofPairs ps).table
    ∧ ∀ l : Listing, (∃ qs, ({ source := .listing l } : Pipeline).collect = .ok qs ∧ qs.Perm ps) ↔
      l.table = (Listing.ofPairs ps).table ∧ (ps.map Pair.key).Nodup := by
  intro format entries separable
  obtain ⟨flat, hflat, hpairs⟩ := FlatPairs.exists_ofList_flatten ps
  have hdelivery : (Source.pairs flat).delivery = { pairs := ps } := by
    rw [delivery, FlatPairs.delivery, hpairs]
  refine ⟨flat, hflat, ?_, ?_, ?_, ?_, ?_, ?_⟩
  . apply Pipeline.forall_equivalent_iff.trans
    rw [hdelivery]
    apply EntryFormat.delivery_toEntries_eq_iff
  . intro stages σ ε f s e
    constructor
    . apply Pipeline.fst_outcome_visit_ne_source
      apply congrArg Delivery.rejected (EntryFormat.delivery_toEntries policy '=' ps)
    . apply Pipeline.fst_outcome_visit_ne_source
      rw [hdelivery]
  . apply EntryFormat.toTable_pipeline
  . apply Table.ofEntries_toEntries_eq_ok_ofPairs_iff
  . have hcollect : ({ source := .pairs flat } : Pipeline).collect = .ok ps := by
      rw [Pipeline.collect_eq_ok_iff, Pipeline.delivery_of_source, hdelivery]
    rw [Pipeline.toTable_eq, hcollect]
    rfl
  . intro l
    have hcollect : ({ source := .listing l } : Pipeline).collect = .ok l.order := by
      rw [Pipeline.collect_eq_ok_iff, Pipeline.delivery_of_source]
      rfl
    rw [hcollect]
    simp only [Except.ok.injEq, exists_eq_left']
    apply Iff.trans ⟨l.perm.symm.trans, l.perm.trans⟩
    apply Table.toPairs_perm_iff

end Source

end KeyValue
