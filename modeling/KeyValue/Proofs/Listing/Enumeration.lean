import KeyValue.Proofs.Callback.Stopping
import KeyValue.Proofs.Pipeline.CallOrder
import KeyValue.Proofs.Table.Reordering

/-!
This module contains what the outcome of a traversal owes to the order in which a listing enumerates
its table. It is the order of the pairs and no more, unless pairs clash, that is, have the same key
but different values.
-/

namespace KeyValue

namespace Listing

def pipeline (l : Listing) (stages : List Stage) : Pipeline :=
  { source := .listing l, stages }

def survivors (l : Listing) (stages : List Stage) : List Pair :=
  l.order.filterMap (Stage.applyAll stages)

variable {σ ε : Type} {l l' : Listing}

theorem delivery_pipeline (l : Listing) (stages : List Stage) :
    (l.pipeline stages).delivery = { pairs := l.survivors stages } := rfl

theorem collect_pipeline (l : Listing) (stages : List Stage) :
    (l.pipeline stages).collect = .ok (l.survivors stages) := by
  rw [Pipeline.collect_eq, delivery_pipeline, Delivery.collect]

theorem toTable_pipeline (l : Listing) (stages : List Stage) :
    (l.pipeline stages).toTable = .ok (Table.ofPairs (l.survivors stages)) := by
  rw [Pipeline.toTable_eq, collect_pipeline]
  rfl

theorem order_perm_order (h : l.table = l'.table) : l.order.Perm l'.order := by
  apply l.perm.trans
  rw [h]
  exact l'.perm.symm

theorem survivors_perm_survivors (h : l.table = l'.table) (stages : List Stage) :
    (l.survivors stages).Perm (l'.survivors stages) :=
  (order_perm_order h).filterMap _

theorem outcomeLogged_push (l : Listing) (stages : List Stage) :
    (l.pipeline stages).outcomeLogged (Callback.accumulate Array.push) #[] =
      (.ok (), (l.survivors stages).toArray, l.order.flatMap (Stage.calls 0 stages)) := by
  have hpush : (l.survivors stages).foldl Array.push #[] = (l.survivors stages).toArray := by
    simp
  have houtcome : ((l.pipeline stages).source.visit ((Callback.accumulate Array.push).through
      (Stage.applyAll (l.pipeline stages).stages)).recorded).outcome (#[], []) =
        (Delivery.result none, (l.survivors stages).toArray, l.order) := by
    rw [Source.visit_eq, Delivery.outcome_visit_recorded_eq_result_iff,
      Callback.accepts_through_iff, ← hpush]
    refine ⟨rfl, ?_, rfl⟩
    apply Callback.accepts_foldl
    intro p seen
    rfl
  rw [Pipeline.outcomeLogged_eq, houtcome]
  rfl

theorem enumeration_shows_in_clashes_only (l l' : Listing) (h : l.table = l'.table)
    (stages : List Stage) :
    (∀ (k : Listing) (σ ε : Type) (f : Callback (StateM σ) ε) (s : σ) (e : MalformedEntry),
      (((k.pipeline stages).visit f).outcome s).1 ≠ .error (.source e))
    ∧ (∀ k : Listing, (k.pipeline stages).collect = .ok (k.survivors stages)
      ∧ ∃ log, (k.pipeline stages).outcomeLogged (Callback.accumulate Array.push) #[] =
          (.ok (), (k.survivors stages).toArray, log)
        ∧ log.Perm (k.table.toPairs.flatMap (Stage.calls 0 stages)))
    ∧ (l.survivors stages).Perm (l'.survivors stages)
    ∧ (∃ t t', (l.pipeline stages).toTable = .ok t ∧ (l'.pipeline stages).toTable = .ok t'
      ∧ ((∀ p ∈ l.survivors stages, ∀ q ∈ l.survivors stages, p.key = q.key → p.value = q.value) →
        t = t')
      ∧ (((l.survivors stages).map Pair.key).Nodup → t = t')
      ∧ (∀ key, (key ∈ t ↔ key ∈ t') ∧ (key ∈ t ↔ ∃ p ∈ l.survivors stages, p.key = key))
      ∧ ∀ key value, t[key]? = some value ∨ t'[key]? = some value →
        { key, value } ∈ l.survivors stages)
    ∧ ∀ (σ ε : Type) (f : Callback (StateM σ) ε) (s : σ),
      let run (k : Listing) := ((k.pipeline stages).visit f.recorded).outcome (s, [])
      let fails (k : Listing) := ∃ e t seen, run k = (.error (.callback e), t, seen)
      (∀ P : Pair → Prop, f.StopsAt s (fun _ p => P p) →
        (fails l ↔ fails l') ∧ (fails l ↔ ∃ p ∈ l.survivors stages, P p)
        ∧ ∀ e t seen, run l = (.error (.callback e), t, seen) → ∃ p, seen.getLast? = some p ∧ P p)
      ∧ ∀ n, f.StopsAt s (fun qs _ => qs.length = n) →
        (fails l ↔ fails l') ∧ (fails l ↔ n < (l.survivors stages).length)
        ∧ ∀ e t seen, run l = (.error (.callback e), t, seen) → seen.length = n + 1 := by
  have hperm := survivors_perm_survivors h stages
  refine ⟨?_, ?_, hperm, ?_, ?_⟩
  . intro k σ ε f s e
    apply Pipeline.fst_outcome_visit_ne_source
    rfl
  . intro k
    refine ⟨k.collect_pipeline stages, _, k.outcomeLogged_push stages, ?_⟩
    apply k.perm.flatMap_right
  . refine ⟨_, _, l.toTable_pipeline stages, l'.toTable_pipeline stages, ?_, ?_, ?_, ?_⟩
    . apply Table.ofPairs_eq_of_perm hperm
    . intro hnodup
      apply Table.ofPairs_eq_of_perm hperm
      intro p hp q hq hkey
      rw [List.inj_on_of_nodup_map hnodup hp hq hkey]
    . intro key
      have hmem (l : Listing) : key ∈ Table.ofPairs (l.survivors stages) ↔
          ∃ p ∈ l.survivors stages, p.key = key := by
        rw [Table.mem_ofPairs_iff, List.mem_map]
      refine ⟨?_, hmem l⟩
      simp only [hmem, hperm.mem_iff]
    . intro key value hvalue
      cases hvalue with
      | inl hvalue => exact Table.mem_of_getElem?_ofPairs hvalue
      | inr hvalue => exact hperm.mem_iff.mpr (Table.mem_of_getElem?_ofPairs hvalue)
  . intro σ ε f s run fails
    have hrun (k : Listing) :
        run k = ((k.pipeline stages).delivery.visit f.recorded).outcome (s, []) := by
      simp only [run, Pipeline.visit_eq]
    refine ⟨?_, ?_⟩
    . intro P hstops
      have hmem (k : Listing) : fails k ↔ ∃ p ∈ k.survivors stages, P p := by
        simp only [fails, hrun]
        apply Delivery.fails_iff_exists_mem hstops
      refine ⟨?_, hmem l, ?_⟩
      . simp only [hmem, hperm.mem_iff]
      . intro e t seen houtcome
        rw [hrun] at houtcome
        obtain ⟨qs, p, hseen, hp⟩ := Delivery.last_of_stopsAt hstops houtcome
        refine ⟨p, ?_, hp⟩
        rw [hseen, List.getLast?_concat]
    . intro n hstops
      have hlength (k : Listing) : fails k ↔ n < (k.survivors stages).length := by
        simp only [fails, hrun]
        apply Delivery.fails_iff_lt_length hstops
      refine ⟨?_, hlength l, ?_⟩
      . rw [hlength, hlength, hperm.length_eq]
      . intro e t seen houtcome
        rw [hrun] at houtcome
        obtain ⟨qs, p, hseen, hqs⟩ := Delivery.last_of_stopsAt hstops houtcome
        rw [hseen, List.length_append, hqs, List.length_singleton]

def reverse (l : Listing) : Listing :=
  { l with order := l.order.reverse, perm := l.order.reverse_perm.trans l.perm }

theorem enumeration_shows_in_clashes_only_reverse :
    let l := ofPairs [⟨"A", "1"⟩, ⟨"B", "2"⟩, ⟨"C", "3"⟩]
    let stages : List Stage := [.filter (·.key != "C")]
    let f := Callback.stopping fun _ p => p.value = "1"
    let g := Callback.stopping fun taken _ => taken.length = 1
    l.reverse.table = l.table
    ∧ l.reverse.order ≠ l.order
    ∧ (∀ p ∈ l.reverse.survivors stages, ∀ q ∈ l.reverse.survivors stages,
      p.key = q.key → p.value = q.value)
    ∧ ((l.reverse.survivors stages).map Pair.key).Nodup
    ∧ (l.reverse.pipeline stages).toTable = (l.pipeline stages).toTable
    ∧ f.StopsAt [] (fun _ p => p.value = "1")
    ∧ (∃ e t seen p, ((l.reverse.pipeline stages).visit f.recorded).outcome ([], []) =
      (.error (.callback e), t, seen) ∧ seen.getLast? = some p ∧ p.value = "1")
    ∧ g.StopsAt [] (fun taken _ => taken.length = 1)
    ∧ ∃ e t seen, ((l.reverse.pipeline stages).visit g.recorded).outcome ([], []) =
      (.error (.callback e), t, seen) ∧ seen.length = 2 := by
  intro l stages f g
  have hf : f.StopsAt [] (fun _ p => p.value = "1") := by
    simpa using Callback.stopsAt_stopping fun _ p => p.value = "1"
  have hg : g.StopsAt [] (fun taken _ => taken.length = 1) := by
    simpa using Callback.stopsAt_stopping fun taken _ => taken.length = 1
  have hsurvivors : l.reverse.survivors stages = [⟨"B", "2"⟩, ⟨"A", "1"⟩] := by decide
  obtain ⟨_, _, _, ⟨t, t', ht, ht', _, hnodup, _, _⟩, hcallback⟩ :=
    enumeration_shows_in_clashes_only l.reverse l rfl stages
  obtain ⟨_, hvalue, hlast⟩ := (hcallback _ _ f []).1 _ hf
  obtain ⟨_, hcount, hlength⟩ := (hcallback _ _ g []).2 _ hg
  rw [hsurvivors] at hnodup hvalue hcount ⊢
  have hkeys : ([⟨"B", "2"⟩, ⟨"A", "1"⟩].map Pair.key).Nodup := by decide
  refine ⟨rfl, by decide, by decide, hkeys, ?_, hf, ?_, hg, ?_⟩
  . rw [ht, ht', hnodup hkeys]
  . obtain ⟨e, t, seen, houtcome⟩ := hvalue.mpr ⟨⟨"A", "1"⟩, by decide⟩
    obtain ⟨p, hp⟩ := hlast e t seen houtcome
    exact ⟨e, t, seen, p, houtcome, hp⟩
  . obtain ⟨e, t, seen, houtcome⟩ := hcount.mpr (by decide)
    exact ⟨e, t, seen, houtcome, hlength e t seen houtcome⟩

end Listing

end KeyValue
