import KeyValue.Proofs.EntryList.FirstFailure

namespace KeyValue

namespace Source

theorem rejected_delivery_eq_some_iff {source : Source} {e : MalformedEntry} :
    source.delivery.rejected = some e ↔
      ∃ list : EntryList, source = .entries list ∧ list.format.onMalformed = .reject
        ∧ e.IsFirstOf list.format.separator list.entries := by
  cases source with
  | entries list =>
    obtain ⟨entries, separator, policy⟩ := list
    simp only [delivery, EntryList.delivery, Source.entries.injEq, exists_eq_left']
    cases policy with
    | skip => simp [EntryFormat.delivery_skip]
    | reject => simp [EntryFormat.rejected_reject_eq_some_iff]
  | listing list => simp [delivery, Listing.delivery]
  | pairs list => simp [delivery, FlatPairs.delivery]

end Source

namespace Pipeline

/--
Collects the pipeline anew for each pair, and notes the key of the pair with the number of pairs
that were collected. If the pipeline cannot be collected, the callback fails for that reason.
-/
def recount (l : Pipeline) : Callback (StateM (List (String × Nat))) MalformedEntry := fun p =>
  match l.collect with
  | .ok ps => modify (· ++ [(p.key, ps.length)])
  | .error e => throw e

theorem outcome_visit_recount_of_ok {inner : Pipeline} {ps : List Pair}
    (h : inner.collect = .ok ps) (l : Pipeline) (rows : List (String × Nat)) :
    (l.visit inner.recount).outcome rows =
      (Delivery.result l.delivery.rejected,
        rows ++ l.delivery.pairs.map fun p => (p.key, ps.length)) := by
  have hanswer (p : Pair) (rows : List (String × Nat)) :
      inner.recount.answer p rows = (.ok (), rows ++ [(p.key, ps.length)]) := by
    unfold Callback.answer recount
    rw [h]
    rfl
  rw [visit_eq, Delivery.outcome_visit_of_answer_ok hanswer, List.foldl_append_eq_append,
    ← List.flatMap_def, ← List.map_eq_flatMap]

theorem outcome_visit_recount_of_error {inner : Pipeline} {e : MalformedEntry}
    (h : inner.collect = .error e) (l : Pipeline) (rows : List (String × Nat)) :
    (l.visit inner.recount).outcome rows =
      (if l.delivery.pairs = [] then Delivery.result l.delivery.rejected else .error (.callback e),
        rows) := by
  have hanswer (p : Pair) (rows : List (String × Nat)) :
      inner.recount.answer p rows = (.error e, rows) := by
    unfold Callback.answer recount
    rw [h]
    rfl
  rw [visit_eq, Delivery.outcome_visit_of_answer_error hanswer]

theorem pairs_delivery_of_isFirstOf {l : Pipeline} {list : EntryList} {e : MalformedEntry}
    (hsource : l.source = .entries list) (hpolicy : list.format.onMalformed = .reject)
    (hfirst : e.IsFirstOf list.format.separator list.entries) :
    l.delivery.pairs =
      (Pair.ofEntries list.format.separator (list.entries.take e.index)).filterMap
        (Stage.applyAll l.stages) := by
  obtain ⟨entries, separator, policy⟩ := list
  simp only at hpolicy
  rw [hpolicy] at hsource
  rw [delivery, hsource, Delivery.filterMap]
  simp only [Source.delivery, EntryList.delivery]
  rw [EntryFormat.pairs_reject_of_isFirstOf hfirst]

theorem visit_recount (l : Pipeline) :
    match l.collect with
    | .ok ps =>
      (l.visit l.recount).outcome [] = (.ok (), ps.map fun p => (p.key, ps.length))
    | .error e =>
      ∃ list : EntryList, l.source = .entries list
        ∧ list.format.onMalformed = .reject
        ∧ e.IsFirstOf list.format.separator list.entries
        ∧ (l.visit l.recount).outcome [] =
          (if ∃ p ∈ Pair.ofEntries list.format.separator (list.entries.take e.index),
              (Stage.applyAll l.stages p).isSome then
            .error (.callback e)
          else
            .error (.source e), []) := by
  cases hcollect : l.collect with
  | ok ps =>
    have hrows := outcome_visit_recount_of_ok hcollect l []
    rw [collect_eq_ok_iff] at hcollect
    rw [hcollect] at hrows
    exact hrows
  | error e =>
    have hrows := outcome_visit_recount_of_error hcollect l []
    rw [collect_eq_error_iff] at hcollect
    obtain ⟨list, hsource, hpolicy, hfirst⟩ :=
      Source.rejected_delivery_eq_some_iff.mp hcollect
    refine ⟨list, hsource, hpolicy, hfirst, ?_⟩
    have hnil : l.delivery.pairs = [] ↔
        ¬∃ p ∈ Pair.ofEntries list.format.separator (list.entries.take e.index),
          (Stage.applyAll l.stages p).isSome := by
      rw [pairs_delivery_of_isFirstOf hsource hpolicy hfirst, List.filterMap_eq_nil_iff]
      simp
    rw [hrows, hcollect]
    split
    . next hdropped =>
      rw [if_neg (hnil.mp hdropped)]
      rfl
    . next hreached =>
      rw [if_pos]
      apply Decidable.of_not_not
      intro hnone
      exact hreached (hnil.mpr hnone)

end Pipeline

end KeyValue
