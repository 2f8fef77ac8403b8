namespace ExceptT

variable {m : Type → Type} [Monad m] [LawfulMonad m] {ε ε' ε'' α β : Type}

theorem adapt_adapt (g : ε → ε') (h : ε' → ε'') (x : ExceptT ε m α) :
    (x.adapt g).adapt h = x.adapt (h ∘ g) := by
  apply ext
  simp only [run_adapt, Functor.map_map]
  congr 1
  funext result
  cases result with
  | ok a => rfl
  | error e => rfl

theorem adapt_pure (g : ε → ε') (a : α) : (pure a : ExceptT ε m α).adapt g = pure a := by
  apply ext
  rw [run_adapt, run_pure, map_pure]
  rfl

theorem adapt_throw (g : ε → ε') (e : ε) : (throw e : ExceptT ε m α).adapt g = throw (g e) := by
  apply ext
  rw [run_adapt, run_throw, map_pure]
  rfl

theorem adapt_liftM (g : ε → ε') (x : m α) : (liftM x : ExceptT ε m α).adapt g = liftM x := by
  apply ext
  rw [run_adapt, run_liftM, Functor.map_map]
  rfl

theorem adapt_bind (g : ε → ε') (x : ExceptT ε m α) (k : α → ExceptT ε m β) :
    (x >>= k).adapt g = x.adapt g >>= fun a => (k a).adapt g := by
  apply ext
  simp only [run_adapt, run_bind, map_bind, bind_map_left]
  apply bind_congr
  intro result
  cases result with
  | ok a => rfl
  | error e => apply map_pure

theorem adapt_forM (h : ε → ε') (g : α → ExceptT ε m Unit) (xs : List α) :
    (xs.forM g).adapt h = xs.forM fun x => (g x).adapt h := by
  induction xs with
  | nil => apply adapt_pure
  | cons x xs ih =>
    rw [List.forM_eq_forM, List.forM_eq_forM] at *
    rw [List.forM_cons, List.forM_cons, adapt_bind, ih]

end ExceptT
