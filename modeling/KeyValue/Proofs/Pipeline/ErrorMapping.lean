import KeyValue.Proofs.Pipeline.CallOrder

namespace KeyValue

namespace Call

variable {m : Type → Type} [Monad m] [LawfulMonad m] {ε ε' : Type}

theorem perform_mapError (observe : Call → m Unit) (f : Callback m ε) (g : ε → ε') (call : Call) :
    call.perform observe (f.mapError g) = (call.perform observe f).adapt g := by
  unfold perform
  rw [ExceptT.adapt_bind, ExceptT.adapt_liftM]
  cases call with
  | stage depth p => simp only [ExceptT.adapt_pure]
  | callback p => rfl

end Call

namespace Delivery

variable {m : Type → Type} [Monad m] [LawfulMonad m] {σ ε ε' : Type}

theorem adapt_ending (d : Delivery) (g : ε → ε') :
    (d.ending : Traversal m ε Unit).adapt (.mapCallback g) = d.ending := by
  unfold ending
  split
  . apply ExceptT.adapt_throw
  . apply ExceptT.adapt_pure

theorem fst_outcome_visit_of_fst_answer_ok {f : Callback (StateM σ) ε}
    (h : ∀ p t, (f.answer p t).1 = .ok ()) (d : Delivery) (s : σ) :
    ((d.visit f).outcome s).1 = result d.rejected := by
  have hanswer (p : Pair) (t : σ) : f.answer p t = (.ok (), (f.answer p t).2) :=
    Prod.ext (h p t) rfl
  rw [outcome_visit_of_answer_ok hanswer]

end Delivery

namespace Pipeline

section

variable {m : Type → Type} [Monad m] [LawfulMonad m] {ε ε' : Type}

theorem visitObserved_mapError (l : Pipeline) (observe : Call → m Unit) (f : Callback m ε)
    (g : ε → ε') :
    l.visitObserved observe (f.mapError g) =
      (l.visitObserved observe f).adapt (.mapCallback g) := by
  rw [visitObserved_eq_forM, visitObserved_eq_forM, ExceptT.adapt_bind, ExceptT.adapt_forM]
  simp only [Call.perform_mapError, ExceptT.adapt_adapt, Delivery.adapt_ending]
  rfl

theorem visit_mapError (l : Pipeline) (f : Callback m ε) (g : ε → ε') :
    l.visit (f.mapError g) = (l.visit f).adapt (.mapCallback g) := by
  apply visitObserved_mapError

theorem visitLogged_mapError (l : Pipeline) (f : Callback m ε) (g : ε → ε') :
    l.visitLogged (f.mapError g) = (l.visitLogged f).adapt (.mapCallback g) := by
  rw [visitLogged, visitLogged, ← visitObserved_mapError]
  -- The lifted callback takes the mapping along.
  congr 1
  funext p
  apply ExceptT.ext
  apply StateT.ext
  intro log
  simp [Callback.mapError, ExceptT.run_adapt]

end

variable {σ ε ε' ε'' : Type}

theorem outcome_visit_mapError (l : Pipeline) (f : Callback (StateM σ) ε) (g : ε → ε') (s : σ) :
    (l.visit (f.mapError g)).outcome s =
      (((l.visit f).outcome s).1.mapError (.mapCallback g), ((l.visit f).outcome s).2) := by
  rw [visit_mapError]
  rfl

theorem outcomeLogged_mapError (l : Pipeline) (f : Callback (StateM σ) ε) (g : ε → ε') (s : σ) :
    l.outcomeLogged (f.mapError g) s =
      ((l.outcomeLogged f s).1.mapError (.mapCallback g), (l.outcomeLogged f s).2) := by
  rw [outcomeLogged, outcomeLogged, visitLogged_mapError]
  rfl

theorem fst_outcome_visit_of_fst_answer_ok {f : Callback (StateM σ) ε}
    (h : ∀ p t, (f.answer p t).1 = .ok ()) (l : Pipeline) (s : σ) :
    ((l.visit f).outcome s).1 = Delivery.result l.source.delivery.rejected := by
  rw [visit_eq]
  apply Delivery.fst_outcome_visit_of_fst_answer_ok h

theorem callback_errors_pass_unchanged (l : Pipeline) (f : Callback (StateM σ) ε) (g : ε → ε')
    (h : ε' → ε'') (s : σ) :
    l.visit (f.mapError g) = (l.visit f).adapt (.mapCallback g)
    ∧ (let (result, t, log) := l.outcomeLogged f s
      l.outcomeLogged (f.mapError g) s = (result.mapError (.mapCallback g), t, log))
    ∧ (match ((l.visit f).outcome s).1, ((l.visit (f.mapError g)).outcome s).1 with
      | .ok (), .ok () => True
      | .error x, .error y =>
        y = x.mapCallback g
        ∧ (∀ e, x = .source e ↔ y = .source e)
        ∧ y.callback? = x.callback?.map g
        ∧ (y.callback? = none ↔ ∃ e, y = .source e)
        ∧ x.mapCallback id = x
        ∧ y.mapCallback h = x.mapCallback (h ∘ g)
      | _, _ => False)
    ∧ ((∃ p t e t', f.answer p t = (.error e, t')) ∨
      ((l.visit f).outcome s).1 = Delivery.result l.source.delivery.rejected)
    ∧ ∀ f₀ : Callback (StateM σ) Empty,
      ((l.visit f₀).outcome s).1 = Delivery.result l.source.delivery.rejected := by
  refine ⟨?_, ?_, ?_, ?_, ?_⟩
  . apply visit_mapError
  . apply outcomeLogged_mapError
  . rw [outcome_visit_mapError]
    rcases (l.visit f).outcome s with ⟨x | _, t⟩
    . refine ⟨rfl, ?_, ?_, ?_, ?_, ?_⟩
      . intro e
        cases x <;> simp [TraversalError.mapCallback]
      . apply TraversalError.callback?_mapCallback
      . cases x <;> simp [TraversalError.mapCallback, TraversalError.callback?]
      . apply TraversalError.mapCallback_id
      . apply TraversalError.mapCallback_mapCallback
    . trivial
  . by_cases hfails : ∃ p t e t', f.answer p t = (.error e, t')
    . exact .inl hfails
    . right
      apply fst_outcome_visit_of_fst_answer_ok
      intro p t
      rcases hp : f.answer p t with ⟨e | _, t'⟩
      . exact absurd ⟨p, t, e, t', hp⟩ hfails
      . rfl
  . intro f₀
    apply fst_outcome_visit_of_fst_answer_ok
    intro p t
    rcases f₀.answer p t with ⟨e | _, t'⟩
    . cases e
    . rfl

end Pipeline

end KeyValue
