import KeyValue.Proofs.Callback.MappedErrors
import KeyValue.Proofs.Pipeline.Outcome
import Mathlib.Data.List.Basic

/-!
This module contains the order in which a traversal calls the functions of its stages and the
callback: all calls for one pair of the source come before the first call for the next one.
-/

namespace KeyValue

def Call.atDepth? (depth : Nat) : Call → Option Pair
  | .stage d p => if d = depth then some p else none
  | .callback _ => none

def Call.perform [Monad m] (observe : Call → m Unit) (f : Callback m ε) (call : Call) :
    ExceptT ε m Unit := do
  observe call
  match call with
  | .stage _ _ => pure ()
  | .callback p => f p

namespace Stage

variable {m : Type → Type} [Monad m] {ε : Type}

def callsFunction : Stage → Bool
  | .passThrough => false
  | _ => true

/--
The calls that are made for one pair, where the first of the stages has depth `depth`. They end with
the first stage that drops the pair or, if none does, with the callback.
-/
def calls (depth : Nat) : List Stage → Pair → List Call
  | [], p => [.callback p]
  | stage :: stages, p =>
    (if stage.callsFunction then [.stage depth p] else []) ++
      match stage.apply p with
      | some p' => calls (depth + 1) stages p'
      | none => []

theorem attach_eq_through [LawfulMonad m] (onCall : Pair → m Unit) (next : Callback m ε)
    (stage : Stage) (p : Pair) :
    stage.attach onCall next p = (do
      if stage.callsFunction then onCall p
      next.through stage.apply p) := by
  cases stage with
  | filterMap g => simp [attach, callsFunction, Callback.through, apply]
  | filter keep => cases h : keep p <;> simp [attach, callsFunction, Callback.through, apply, h]
  | map g => simp [attach, callsFunction, Callback.through, apply]
  | passThrough => simp [attach, callsFunction, Callback.through, apply]

theorem attachAll_eq_forM [LawfulMonad m] (observe : Call → m Unit) (f : Callback m ε)
    (depth : Nat) (stages : List Stage) (p : Pair) :
    attachAll observe f depth stages p = (calls depth stages p).forM (Call.perform observe f) := by
  induction stages generalizing depth p with
  | nil => simp [attachAll, calls, Call.perform]
  | cons stage stages ih =>
    rw [attachAll, attach_eq_through, calls]
    unfold Callback.through
    cases stage.callsFunction with
    | false =>
      cases stage.apply p with
      | none => simp
      | some p' => simp [ih]
    | true =>
      cases stage.apply p with
      | none => simp [Call.perform]
      | some p' => simp [Call.perform, ih]

theorem filterMap_atDepth?_calls_of_lt {d depth : Nat} (h : d < depth) (stages : List Stage)
    (p : Pair) : (calls depth stages p).filterMap (Call.atDepth? d) = [] := by
  induction stages generalizing depth p with
  | nil => rfl
  | cons stage stages ih =>
    have hne : depth ≠ d := by omega
    rw [calls, List.filterMap_append]
    cases stage.callsFunction <;> cases stage.apply p <;>
      simp [Call.atDepth?, hne, ih (Nat.lt_succ_of_lt h)]

theorem filterMap_atDepth?_calls (depth d : Nat) (stages : List Stage) (p : Pair) :
    (calls depth stages p).filterMap (Call.atDepth? (depth + d)) =
      if stages[d]?.any callsFunction then (applyAll (stages.take d) p).toList else [] := by
  induction stages generalizing depth d p with
  | nil => rfl
  | cons stage stages ih =>
    rw [calls, List.filterMap_append]
    cases d with
    | zero =>
      have hrest (p' : Pair) :
          (calls (depth + 1) stages p').filterMap (Call.atDepth? depth) = [] := by
        apply filterMap_atDepth?_calls_of_lt
        omega
      cases h : stage.callsFunction <;> cases stage.apply p <;>
        simp [Call.atDepth?, applyAll, h, hrest]
    | succ d =>
      have hdepth : depth + (d + 1) = depth + 1 + d := by omega
      have hne : depth ≠ depth + 1 + d := by omega
      rw [List.take_succ_cons, applyAll_cons, hdepth]
      cases stage.callsFunction <;> cases stage.apply p <;>
        simp [Call.atDepth?, hne, ih]

theorem getLast?_calls {depth : Nat} {stages : List Stage} {p p' : Pair}
    (h : applyAll stages p = some p') :
    (calls depth stages p).getLast? = some (.callback p') := by
  induction stages generalizing depth p with
  | nil =>
    simp only [applyAll, List.foldlM_nil, Option.pure_def, Option.some.injEq] at h
    rw [calls, h]
    rfl
  | cons stage stages ih =>
    rw [applyAll_cons, Option.bind_eq_some_iff] at h
    obtain ⟨q, hq, h⟩ := h
    rw [calls, hq, List.getLast?_append, ih h]
    rfl

theorem run_bind_push [LawfulMonad m] (call : Call)
    (x : ExceptT ε (StateT (Array Call) m) Unit) (log : Array Call) :
    (do
      liftM (modify (·.push call) : StateT (Array Call) m Unit)
      x : ExceptT ε (StateT (Array Call) m) Unit).run.run log = x.run.run (log.push call) := by
  have hlift : (liftM (modify (·.push call) : StateT (Array Call) m Unit) :
      ExceptT ε (StateT (Array Call) m) Unit) = ExceptT.lift (modify (·.push call)) := rfl
  rw [hlift, ExceptT.run_bind_lift, StateT.run_bind, StateT.run_modify, pure_bind]

theorem run_attachAll_push [LawfulMonad m] (f : Callback m ε) (depth : Nat) (stages : List Stage)
    (p : Pair) (log : Array Call) :
    (attachAll (m := StateT (Array Call) m) (fun call => modify (·.push call))
        (fun p => .mk (StateT.lift (f p).run)) depth stages p).run.run log =
      (·, log ++ (calls depth stages p).toArray) <$> (f.through (applyAll stages) p).run := by
  induction stages generalizing depth p log with
  | nil =>
    rw [attachAll, run_bind_push]
    simp [calls, Callback.through, applyAll]
  | cons stage stages ih =>
    rw [attachAll, attach_eq_through, calls]
    unfold Callback.through at *
    simp only [applyAll_cons]
    cases stage.callsFunction with
    | false =>
      cases stage.apply p with
      | none => simp
      | some p' => simp [ih]
    | true =>
      simp only [if_true]
      rw [run_bind_push]
      cases stage.apply p with
      | none => simp
      | some p' => simp [ih]

end Stage

namespace Delivery

variable {σ ε : Type}

theorem run_visit_logged (d : Delivery) (f : Callback (StateM σ) ε) (block : Pair → List Call)
    (logged : Callback (StateT (Array Call) (StateM σ)) ε)
    (h : ∀ p log s, ((logged p).run.run log).run s =
      (((f.answer p s).1, log ++ (block p).toArray), (f.answer p s).2))
    (s : σ) (seen : List Pair) :
    ((d.visit logged).run.run (seen.flatMap block).toArray).run s =
      let (result, t, seen') := (d.visit f.recorded).outcome (s, seen)
      ((result, (seen'.flatMap block).toArray), t) := by
  -- All along the log holds the blocks of the pairs that `f` has seen.
  obtain ⟨ps, rejected⟩ := d
  induction ps generalizing s seen with
  | nil =>
    rw [outcome_visit_nil, visit_nil]
    cases rejected with
    | none => rfl
    | some e => rfl
  | cons p ps ih =>
    rw [outcome_visit_cons, visit_cons, Callback.answer_recorded]
    have hseen : (seen.flatMap block).toArray ++ (block p).toArray =
        ((seen ++ [p]).flatMap block).toArray := by
      simp
    have hp := h p (seen.flatMap block).toArray s
    rw [hseen] at hp
    rw [ExceptT.run_bind, Callback.deliver, ExceptT.run_adapt]
    simp only [StateT.run_bind, StateT.run_map]
    rw [hp]
    rcases f.answer p s with ⟨_ | _, s'⟩
    . rfl
    . exact ih s' (seen ++ [p])

end Delivery

namespace Pipeline

variable {σ ε : Type}

theorem visitObserved_eq_forM {m : Type → Type} [Monad m] [LawfulMonad m] (l : Pipeline)
    (observe : Call → m Unit) (f : Callback m ε) :
    l.visitObserved observe f = (do
      (l.source.delivery.pairs.flatMap (Stage.calls 0 l.stages)).forM fun call =>
        (call.perform observe f).adapt .callback
      l.source.delivery.ending) := by
  have hpairs (ps : List Pair) :
      ps.forM (Callback.deliver (Stage.attachAll observe f 0 l.stages)) =
        (ps.flatMap (Stage.calls 0 l.stages)).forM fun call =>
          (call.perform observe f).adapt TraversalError.callback := by
    induction ps with
    | nil => rfl
    | cons p ps ih =>
      rw [List.forM_eq_forM, List.forM_eq_forM] at *
      rw [List.forM_cons, ih, List.flatMap_cons, List.forM_append, Callback.deliver,
        Stage.attachAll_eq_forM, ExceptT.adapt_forM, List.forM_eq_forM]
  rw [visitObserved, Source.visit_eq, Delivery.visit, hpairs]

def outcomeLogged (l : Pipeline) (f : Callback (StateM σ) ε) (s : σ) :
    Except (TraversalError ε) Unit × σ × List Call :=
  let ((result, log), t) := ((l.visitLogged f).run.run #[]).run s
  (result, t, log.toList)

theorem outcomeLogged_eq (l : Pipeline) (f : Callback (StateM σ) ε) (s : σ) :
    l.outcomeLogged f s =
      let (result, t, reached) :=
        (l.source.visit (f.through (Stage.applyAll l.stages)).recorded).outcome (s, [])
      (result, t, reached.flatMap (Stage.calls 0 l.stages)) := by
  have hrun := l.source.delivery.run_visit_logged (f.through (Stage.applyAll l.stages))
    (Stage.calls 0 l.stages) _ (by
      intro p log s
      rw [Stage.run_attachAll_push f 0 l.stages p log]
      rfl) s []
  rw [List.flatMap_nil] at hrun
  unfold outcomeLogged visitLogged visitObserved
  rw [Source.visit_eq, Source.visit_eq, hrun]

theorem logs_one_block_per_pair (l : Pipeline) (f : Callback (StateM σ) ε) (s : σ) :
    let block := Stage.calls 0 l.stages
    let survivor := Stage.applyAll l.stages
    let d := l.source.delivery
    (∀ observe : Call → StateM σ Unit, l.visitObserved observe f = (do
      (d.pairs.flatMap block).forM fun call => (call.perform observe f).adapt .callback
      d.ending))
    ∧ ∃ reached result t,
      l.outcomeLogged f s = (result, t, reached.flatMap block)
      ∧ (l.visit f).outcome s = (result, t)
      ∧ reached <+: d.pairs
      ∧ (∀ depth, (reached.flatMap block).filterMap (Call.atDepth? depth) =
        if l.stages[depth]?.any Stage.callsFunction then
          reached.filterMap (Stage.applyAll (l.stages.take depth))
        else
          [])
      ∧ match result with
        | .ok () =>
          d.rejected = none ∧ reached = d.pairs ∧ f.Accepts s (reached.filterMap survivor) t
        | .error (.source e) =>
          d.rejected = some e ∧ reached = d.pairs ∧ f.Accepts s (reached.filterMap survivor) t
        | .error (.callback e) =>
          f.Refuses s (reached.filterMap survivor) e t
          ∧ ∃ qs p p', reached = qs ++ [p] ∧ survivor p = some p'
            ∧ (reached.flatMap block).getLast? = some (.callback p') := by
  intro block survivor d
  refine ⟨fun observe => l.visitObserved_eq_forM observe f, ?_⟩
  rcases houtcome : (d.visit (f.through survivor).recorded).outcome (s, []) with
    ⟨result, t, reached⟩
  refine ⟨reached, result, t, ?_, ?_, ?_⟩
  . rw [outcomeLogged_eq, Source.visit_eq, houtcome]
  . rw [outcome_visit_through, Delivery.outcome_visit_recorded _ _ s [], houtcome]
  have hdepth (depth : Nat) : (reached.flatMap block).filterMap (Call.atDepth? depth) =
      if l.stages[depth]?.any Stage.callsFunction then
        reached.filterMap (Stage.applyAll (l.stages.take depth))
      else
        [] := by
    have hcalls := Stage.filterMap_atDepth?_calls 0 depth l.stages
    rw [Nat.zero_add] at hcalls
    rw [List.filterMap_flatMap, List.filterMap_eq_flatMap_toList]
    simp only [block, hcalls]
    split
    . rfl
    . simp
  -- The pairs of the source that are reached are those that a callback sees which has all stages
  -- within itself.
  match result with
  | .ok () =>
    obtain ⟨hrejected, haccepts, rfl⟩ :=
      (Delivery.outcome_visit_recorded_eq_result_iff d _ s t reached none).mp houtcome
    rw [Callback.accepts_through_iff] at haccepts
    exact ⟨List.prefix_refl _, hdepth, hrejected, rfl, haccepts⟩
  | .error (.source e) =>
    obtain ⟨hrejected, haccepts, rfl⟩ :=
      (Delivery.outcome_visit_recorded_eq_result_iff d _ s t reached (some e)).mp houtcome
    rw [Callback.accepts_through_iff] at haccepts
    exact ⟨List.prefix_refl _, hdepth, hrejected, rfl, haccepts⟩
  | .error (.callback e) =>
    rw [Delivery.outcome_visit_recorded_eq_callback_iff] at houtcome
    obtain ⟨hps, hrefuses⟩ := houtcome
    obtain ⟨hrefuses, qs, p, p', rfl, hp⟩ := hrefuses.of_through
    refine ⟨hps, hdepth, hrefuses, qs, p, p', rfl, hp, ?_⟩
    simp [block, Stage.getLast?_calls hp]

end Pipeline

end KeyValue
