import KeyValue.Pipeline
import KeyValue.Proofs.Callback.Run

namespace KeyValue

namespace Delivery

theorem eq_iff {d d' : Delivery} : d = d' ↔ d.pairs = d'.pairs ∧ d.rejected = d'.rejected := by
  cases d
  cases d'
  simp

theorem collect_eq_ok_iff {d : Delivery} {ps : List Pair} :
    d.collect = .ok ps ↔ d = { pairs := ps } := by
  rw [eq_iff, collect]
  cases d.rejected with
  | none => simp
  | some e => simp

theorem collect_eq_error_iff {d : Delivery} {e : MalformedEntry} :
    d.collect = .error e ↔ d.rejected = some e := by
  rw [collect]
  cases d.rejected with
  | none => simp
  | some e => simp

end Delivery

namespace Source

theorem outcome_visit_push (source : Source) :
    (source.visit (Callback.accumulate Array.push)).outcome #[] =
      (Delivery.result source.delivery.rejected, source.delivery.pairs.toArray) := by
  have hpush : source.delivery.pairs.foldl Array.push #[] = source.delivery.pairs.toArray := by
    simp
  rw [visit_eq, ← hpush]
  apply Delivery.run_visit_accumulate

end Source

namespace Pipeline

variable {σ ε : Type}

theorem delivery_of_source (source : Source) :
    ({ source } : Pipeline).delivery = source.delivery := by
  have hall (ps : List Pair) : ps.filterMap (Stage.applyAll []) = ps := by
    apply List.filterMap_some
  rw [delivery, Delivery.filterMap, hall]

theorem visit_of_source {m : Type → Type} [Monad m] [LawfulMonad m] (source : Source)
    (f : Callback m ε) : ({ source } : Pipeline).visit f = source.delivery.visit f := by
  rw [visit_eq, delivery_of_source]

theorem outcome_visit_through (l : Pipeline) (f : Callback (StateM σ) ε) (s : σ) :
    (l.visit f).outcome s =
      (l.source.delivery.visit (f.through (Stage.applyAll l.stages))).outcome s := by
  rw [visit_eq, delivery, Delivery.visit_filterMap]

theorem outcome_visit_recorded (l : Pipeline) (f : Callback (StateM σ) ε) (s : σ)
    (seen : List Pair) :
    (l.visit f).outcome s =
      (((l.visit f.recorded).outcome (s, seen)).1,
        ((l.visit f.recorded).outcome (s, seen)).2.1) := by
  rw [visit_eq, visit_eq]
  apply Delivery.outcome_visit_recorded

theorem fst_outcome_visit_ne_source {l : Pipeline} (h : l.source.delivery.rejected = none)
    (f : Callback (StateM σ) ε) (s : σ) (e : MalformedEntry) :
    ((l.visit f).outcome s).1 ≠ .error (.source e) := by
  rw [visit_eq]
  apply Delivery.fst_outcome_visit_ne_source
  exact h

theorem collect_eq_ok_iff {l : Pipeline} {ps : List Pair} :
    l.collect = .ok ps ↔ l.delivery = { pairs := ps } := by
  rw [collect_eq, Delivery.collect_eq_ok_iff]

theorem collect_eq_error_iff {l : Pipeline} {e : MalformedEntry} :
    l.collect = .error e ↔ l.delivery.rejected = some e := by
  rw [collect_eq, Delivery.collect_eq_error_iff]

theorem collect_of_source (source : Source) :
    ({ source } : Pipeline).collect = source.delivery.collect := by
  rw [collect_eq, delivery_of_source]

theorem toTable_eq_ok_iff {l : Pipeline} {t : Table} :
    l.toTable = .ok t ↔ ∃ ps, l.collect = .ok ps ∧ Table.ofPairs ps = t := by
  rw [toTable_eq]
  cases l.collect with
  | ok ps => simp [Functor.map, Except.map]
  | error e => simp [Functor.map, Except.map]

theorem visit_delivers_survivors (l : Pipeline) (f : Callback (StateM σ) ε) (s t : σ)
    (seen : List Pair) :
    let d := l.source.delivery
    let survivors := d.pairs.filterMap (Stage.applyAll l.stages)
    (l.source.visit (Callback.accumulate Array.push)).outcome #[] =
      (Delivery.result d.rejected, d.pairs.toArray)
    ∧ (l.visit f).outcome s =
      (((l.visit f.recorded).outcome (s, [])).1, ((l.visit f.recorded).outcome (s, [])).2.1)
    ∧ ((l.visit f.recorded).outcome (s, []) = (.ok (), t, seen) ↔
      d.rejected = none ∧ f.Accepts s survivors t ∧ seen = survivors)
    ∧ (∀ e, (l.visit f.recorded).outcome (s, []) = (.error (.source e), t, seen) ↔
      d.rejected = some e ∧ f.Accepts s survivors t ∧ seen = survivors)
    ∧ (∀ e, (l.visit f.recorded).outcome (s, []) = (.error (.callback e), t, seen) ↔
      seen <+: survivors ∧ f.Refuses s seen e t)
    ∧ (((l.visit f).outcome s).1 = Delivery.result d.rejected ↔
      ¬∃ ps e t, ps <+: survivors ∧ f.Refuses s ps e t) := by
  intro d survivors
  refine ⟨?_, ?_, ?_, ?_, ?_, ?_⟩
  . apply Source.outcome_visit_push
  . apply outcome_visit_recorded
  . rw [visit_eq]
    apply Delivery.outcome_visit_recorded_eq_result_iff l.delivery f s t seen none
  . intro e
    rw [visit_eq]
    apply Delivery.outcome_visit_recorded_eq_result_iff l.delivery f s t seen (some e)
  . intro e
    rw [visit_eq]
    apply Delivery.outcome_visit_recorded_eq_callback_iff l.delivery
  . rw [← Callback.exists_accepts_iff, visit_eq]
    apply Delivery.fst_outcome_visit_eq_result_iff l.delivery

end Pipeline

end KeyValue
