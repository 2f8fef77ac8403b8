import KeyValue.Proofs.Pipeline.Outcome

namespace KeyValue

namespace Stage

theorem applyAll_singleton (stage : Stage) : applyAll [stage] = stage.apply := by
  funext p
  rw [applyAll_cons]
  exact Option.bind_fun_some (stage.apply p)

theorem applyAll_append (stages stages' : List Stage) :
    applyAll (stages ++ stages') = fun p => (applyAll stages p).bind (applyAll stages') := by
  funext p
  rw [applyAll, List.foldlM_append]
  rfl

end Stage

namespace Delivery

theorem filterMap_filterMap (d : Delivery) (g h : Pair → Option Pair) :
    (d.filterMap g).filterMap h = d.filterMap fun p => (g p).bind h := by
  simp only [filterMap, List.filterMap_filterMap]

theorem result_inj {ε : Type} {rejected rejected' : Option MalformedEntry} :
    (result rejected : Except (TraversalError ε) Unit) = result rejected' ↔
      rejected = rejected' := by
  cases rejected <;> cases rejected' <;> simp [result]

end Delivery

namespace Pipeline

/--
No callback can tell the two apart: it is handed the same pairs in the same order and is left in the
same state, and the traversals have the same result.
-/
def Equivalent (l l' : Pipeline) : Prop :=
  ∀ (σ ε : Type) (f : Callback (StateM σ) ε) (s : σ),
    (l.visit f.recorded).outcome (s, []) = (l'.visit f.recorded).outcome (s, [])

def pushAll (l : Pipeline) (above : List Stage) : Pipeline :=
  above.foldl push l

variable {l l' : Pipeline}

theorem equivalent_iff_delivery_eq : l.Equivalent l' ↔ l.delivery = l'.delivery := by
  constructor
  . intro h
    -- A callback that takes every pair sees all of the delivery.
    have houtcome (l : Pipeline) :
        (l.visit (Callback.recorded fun _ => (pure () : ExceptT Empty (StateM Unit) Unit))).outcome
            ((), []) =
          (Delivery.result l.delivery.rejected, (), l.delivery.pairs) := by
      rw [visit_eq, Delivery.outcome_visit_recorded_eq_result_iff]
      exact ⟨rfl, Callback.accepts_foldl (fun _ _ => rfl) () _, rfl⟩
    have hsame := h Unit Empty (fun _ => pure ()) ()
    rw [houtcome, houtcome, Prod.mk.injEq, Prod.mk.injEq, Delivery.result_inj] at hsame
    rw [Delivery.eq_iff]
    exact ⟨hsame.2.2, hsame.1⟩
  . intro h σ ε f s
    rw [visit_eq, visit_eq, h]

theorem delivery_pushAll (l : Pipeline) (above : List Stage) :
    (l.pushAll above).delivery = l.delivery.filterMap (Stage.applyAll above) := by
  have hstages : l.pushAll above = { l with stages := l.stages ++ above } := by
    induction above generalizing l with
    | nil => simp [pushAll]
    | cons stage above ih =>
      rw [pushAll, List.foldl_cons, ← pushAll, ih]
      simp [push]
  rw [hstages, delivery, delivery, Delivery.filterMap_filterMap, Stage.applyAll_append]

theorem Equivalent.pushAll (h : l.Equivalent l') (above : List Stage) :
    (l.pushAll above).Equivalent (l'.pushAll above) := by
  rw [equivalent_iff_delivery_eq] at *
  rw [delivery_pushAll, delivery_pushAll, h]

theorem equivalent_iff_forall_pushAll :
    l.Equivalent l' ↔ ∀ above, (l.pushAll above).Equivalent (l'.pushAll above) := by
  constructor
  . exact Equivalent.pushAll
  . intro h
    exact h []

theorem forall_equivalent_iff {source source' : Source} :
    (∀ stages, ({ source, stages } : Pipeline).Equivalent { source := source', stages }) ↔
      source.delivery = source'.delivery := by
  simp only [equivalent_iff_delivery_eq]
  constructor
  . intro h
    rw [← delivery_of_source, h, delivery_of_source]
  . intro h stages
    rw [delivery, h]
    rfl

theorem pushAll_equivalent (l : Pipeline) (stages stages' : List Stage)
    (h : Stage.applyAll stages = Stage.applyAll stages') :
    (l.pushAll stages).Equivalent (l.pushAll stages') := by
  rw [equivalent_iff_delivery_eq, delivery_pushAll, delivery_pushAll, h]

theorem push_equivalent_self (l : Pipeline) (stage : Stage) (h : stage.apply = some) :
    (l.push stage).Equivalent l := by
  apply pushAll_equivalent l [stage] []
  rw [Stage.applyAll_singleton, h]
  rfl

theorem equivalent_filterMap_applyAll (l : Pipeline) :
    l.Equivalent (({ source := l.source } : Pipeline).filterMap (Stage.applyAll l.stages)) := by
  rw [equivalent_iff_delivery_eq, filterMap, push, delivery, delivery, List.nil_append,
    Stage.applyAll_singleton]
  rfl

theorem filterMap_filterMap_equivalent (l : Pipeline) (g h : Pair → Option Pair) :
    ((l.filterMap g).filterMap h).Equivalent (l.filterMap fun p => (g p).bind h) := by
  apply pushAll_equivalent l [.filterMap g, .filterMap h] [.filterMap _]
  funext p
  rw [Stage.applyAll_cons, Stage.applyAll_singleton, Stage.applyAll_singleton]
  rfl

theorem filter_filter_equivalent (l : Pipeline) (keep keep' : Pair → Bool) :
    ((l.filter keep).filter keep').Equivalent (l.filter fun p => keep p && keep' p) := by
  apply pushAll_equivalent l [.filter keep, .filter keep'] [.filter _]
  funext p
  rw [Stage.applyAll_cons, Stage.applyAll_singleton, Stage.applyAll_singleton]
  cases h : keep p <;> simp [Stage.apply, h]

theorem filter_comm_equivalent (l : Pipeline) (keep keep' : Pair → Bool) :
    ((l.filter keep).filter keep').Equivalent ((l.filter keep').filter keep) := by
  apply pushAll_equivalent l [.filter keep, .filter keep'] [.filter keep', .filter keep]
  funext p
  rw [Stage.applyAll_cons, Stage.applyAll_cons, Stage.applyAll_singleton, Stage.applyAll_singleton]
  cases h : keep p <;> cases h' : keep' p <;> simp [Stage.apply, h, h']

theorem map_map_equivalent (l : Pipeline) (g h : Pair → Pair) :
    ((l.map g).map h).Equivalent (l.map (h ∘ g)) := by
  apply pushAll_equivalent l [.map g, .map h] [.map _]
  funext p
  rw [Stage.applyAll_cons, Stage.applyAll_singleton, Stage.applyAll_singleton]
  rfl

theorem map_filter_equivalent (l : Pipeline) (g : Pair → Pair) (keep : Pair → Bool) :
    ((l.map g).filter keep).Equivalent ((l.filter (keep ∘ g)).map g) := by
  apply pushAll_equivalent l [.map g, .filter keep] [.filter (keep ∘ g), .map g]
  funext p
  rw [Stage.applyAll_cons, Stage.applyAll_cons, Stage.applyAll_singleton, Stage.applyAll_singleton]
  cases h : keep (g p) <;> simp [Stage.apply, h]

theorem stages_fuse (l l' : Pipeline) (g h : Pair → Option Pair) (keep keep' : Pair → Bool)
    (a b : Pair → Pair) (above : List Stage) :
    (l.Equivalent l' ↔ ∀ above, (l.pushAll above).Equivalent (l'.pushAll above))
    ∧ ((l.filterMap g).filterMap h).Equivalent (l.filterMap fun p => (g p).bind h)
    ∧ l.Equivalent (({ source := l.source } : Pipeline).filterMap (Stage.applyAll l.stages))
    ∧ ((l.filter keep).filter keep').Equivalent (l.filter fun p => keep p && keep' p)
    ∧ ((l.filter keep).filter keep').Equivalent ((l.filter keep').filter keep)
    ∧ ((l.map a).map b).Equivalent (l.map (b ∘ a))
    ∧ ((l.map a).filter keep).Equivalent ((l.filter (keep ∘ a)).map a)
    ∧ ((l.filter fun _ => true).pushAll above).Equivalent (l.pushAll above)
    ∧ ((l.map id).pushAll above).Equivalent (l.pushAll above)
    ∧ ((l.filterMap some).pushAll above).Equivalent (l.pushAll above)
    ∧ (l.passThrough.pushAll above).Equivalent (l.pushAll above) := by
  have hneutral (stage : Stage) (hstage : stage.apply = some) :
      ((l.push stage).pushAll above).Equivalent (l.pushAll above) :=
    (l.push_equivalent_self stage hstage).pushAll above
  refine ⟨?_, ?_, ?_, ?_, ?_, ?_, ?_, ?_, ?_, ?_, ?_⟩
  . apply equivalent_iff_forall_pushAll
  . apply filterMap_filterMap_equivalent
  . apply equivalent_filterMap_applyAll
  . apply filter_filter_equivalent
  . apply filter_comm_equivalent
  . apply map_map_equivalent
  . apply map_filter_equivalent
  . apply hneutral (.filter fun _ => true)
    rfl
  . apply hneutral (.map id)
    rfl
  . apply hneutral (.filterMap some)
    rfl
  . apply hneutral .passThrough
    rfl

end Pipeline

end KeyValue
