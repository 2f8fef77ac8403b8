import KeyValue.Proofs.EntryList.RoundTrip

/-!
This module contains the two policies side by side. Skipping malformed entries is rejecting them
after they were taken out, and a traversal that rejects them is one that skips them up to the first.
-/

namespace KeyValue

namespace EntryFormat

theorem delivery_reject_filter (separator : Char) (entries : List String) :
    delivery { separator, onMalformed := .reject } (entries.filter (separator ∈ ·.toList)) =
      { pairs := Pair.ofEntries separator entries } := by
  rw [delivery_reject_of_not_isFirstOf, Pair.ofEntries_filter]
  rw [MalformedEntry.forall_not_isFirstOf_iff]
  intro entry hentry
  rw [List.mem_filter, decide_eq_true_eq] at hentry
  exact hentry.2

theorem pairs_reject_isPrefix (separator : Char) (entries : List String) :
    (delivery { separator, onMalformed := .reject } entries).pairs <+:
      Pair.ofEntries separator entries := by
  cases delivery_reject separator entries 0 with
  | inl h =>
    obtain ⟨e, _, hdelivery⟩ := h
    rw [hdelivery]
    apply List.IsPrefix.filterMap
    apply List.take_prefix
  | inr h => simp [h.2]

theorem outcome_visit_skip_of_accepts_take {τ ε : Type} {separator : Char} {entries : List String}
    {stages : List Stage} {g : Callback (StateM τ) ε} {x y : τ} {n : Nat}
    (h : g.Accepts x
      ((Pair.ofEntries separator (entries.take n)).filterMap (Stage.applyAll stages)) y) :
    ((pipeline { separator, onMalformed := .skip } entries stages).visit g).outcome x =
      ((pipeline { separator, onMalformed := .skip } (entries.drop n) stages).visit g).outcome
        y := by
  rw [Pipeline.visit_eq, Pipeline.visit_eq, delivery_pipeline, delivery_pipeline, delivery_skip,
    delivery_skip, Delivery.filterMap, Delivery.filterMap,
    ← Pair.ofEntries_take_append_drop separator entries n, List.filterMap_append]
  apply Delivery.outcome_visit_append_of_accepts h

theorem skip_continues_reject {σ ε : Type} (separator : Char) (entries : List String)
    (stages : List Stage) (f : Callback (StateM σ) ε) (s : σ) :
    let strict : EntryFormat := { separator, onMalformed := .reject }
    let lenient : EntryFormat := { separator, onMalformed := .skip }
    let run (format : EntryFormat) (entries : List String) (s : σ) (seen : List Pair) :=
      ((format.pipeline entries stages).visit f.recorded).outcome (s, seen)
    let kept := entries.filter (separator ∈ ·.toList)
    (∀ format entries, ((format.pipeline entries stages).visit f).outcome s =
      ((run format entries s []).1, (run format entries s []).2.1))
    ∧ run lenient entries s [] = run strict kept s []
    ∧ (∀ e, (run strict kept s []).1 ≠ .error (.source e))
    ∧ match run strict entries s [] with
      | (.error (.source e), t, seen) =>
        e.IsFirstOf separator entries
        ∧ f.Accepts s seen t
        ∧ run lenient entries s [] = run lenient (entries.drop e.index) t seen
        ∧ seen <+: (run lenient entries s []).2.2
      | outcome => run lenient entries s [] = outcome := by
  intro strict lenient run kept
  have hrun (format : EntryFormat) (entries : List String) (s : σ) (seen : List Pair) :
      run format entries s seen =
        (((format.delivery entries).filterMap (Stage.applyAll stages)).visit f.recorded).outcome
          (s, seen) := by
    simp only [run, Pipeline.visit_eq, delivery_pipeline]
  have hkept : strict.delivery kept = lenient.delivery entries := by
    apply delivery_reject_filter
  refine ⟨?_, ?_, ?_, ?_⟩
  . intro format entries
    apply Pipeline.outcome_visit_recorded
  . rw [hrun, hrun, hkept]
  . intro e
    rw [hrun, hkept]
    apply Delivery.fst_outcome_visit_ne_source
    rfl
  rcases houtcome : run strict entries s [] with ⟨result, t, seen⟩
  rw [hrun] at houtcome
  match result with
  | .ok () =>
    obtain ⟨hrejected, _, _⟩ :=
      (Delivery.outcome_visit_recorded_eq_result_iff _ f s t seen none).mp houtcome
    have hsame : lenient.delivery entries = strict.delivery entries := by
      rw [delivery_reject_of_not_isFirstOf (rejected_reject_eq_none_iff.mp hrejected)]
      rfl
    rw [← hsame] at houtcome
    simp only [hrun, houtcome]
  | .error (.callback e) =>
    rw [Delivery.outcome_visit_recorded_eq_callback_iff] at houtcome
    simp only [hrun]
    rw [Delivery.outcome_visit_recorded_eq_callback_iff]
    refine ⟨houtcome.1.trans ?_, houtcome.2⟩
    apply List.IsPrefix.filterMap
    apply pairs_reject_isPrefix
  | .error (.source e) =>
    obtain ⟨hrejected, haccepts, hseen⟩ :=
      (Delivery.outcome_visit_recorded_eq_result_iff _ f s t seen (some e)).mp houtcome
    have hfirst := rejected_reject_eq_some_iff.mp hrejected
    have hpairs : ((strict.delivery entries).filterMap (Stage.applyAll stages)).pairs =
        (Pair.ofEntries separator (entries.take e.index)).filterMap (Stage.applyAll stages) := by
      rw [Delivery.filterMap, pairs_reject_of_isFirstOf hfirst]
    rw [hpairs] at haccepts hseen
    have hcontinues : run lenient entries s [] = run lenient (entries.drop e.index) t seen := by
      apply outcome_visit_skip_of_accepts_take
      rw [Callback.accepts_recorded_iff]
      exact ⟨haccepts, hseen⟩
    rw [← hseen] at haccepts
    refine ⟨hfirst, haccepts, hcontinues, ?_⟩
    rw [hcontinues, hrun]
    apply Delivery.seen_isPrefix_outcome_visit_recorded

end EntryFormat

end KeyValue
