import KeyValue.Delivery

/-!
This module contains the two ways in which a callback with a state can fare on a list of pairs:
it takes them all, or it fails on one of them and sees no other. A traversal of a delivery is
determined by which of the two it is.
-/

namespace KeyValue

def Traversal.outcome {σ ε : Type} (x : Traversal (StateM σ) ε Unit) (s : σ) :
    Except (TraversalError ε) Unit × σ :=
  x.run.run s

namespace Callback

variable {σ ε : Type}

def answer (f : Callback (StateM σ) ε) (p : Pair) (s : σ) : Except ε Unit × σ :=
  (f p).run.run s

/--
The callback is handed `ps` one after the other and fails on none of them. This takes its state from
`s` to `t`.
-/
inductive Accepts (f : Callback (StateM σ) ε) : σ → List Pair → σ → Prop where
  | nil (s : σ) : Accepts f s [] s
  | cons {s s' t : σ} {p : Pair} {ps : List Pair} (hp : f.answer p s = (.ok (), s'))
      (hps : Accepts f s' ps t) : Accepts f s (p :: ps) t

/--
The callback is handed `ps` one after the other and fails with `e` on the last of them, but on none
before. This takes its state from `s` to `t`.
-/
inductive Refuses (f : Callback (StateM σ) ε) : σ → List Pair → ε → σ → Prop where
  | last {s t : σ} {p : Pair} {e : ε} (hp : f.answer p s = (.error e, t)) : Refuses f s [p] e t
  | cons {s s' t : σ} {p : Pair} {ps : List Pair} {e : ε} (hp : f.answer p s = (.ok (), s'))
      (hps : Refuses f s' ps e t) : Refuses f s (p :: ps) e t

def recorded (f : Callback (StateM σ) ε) : Callback (StateM (σ × List Pair)) ε := fun p =>
  .mk fun (s, seen) =>
    let (result, t) := f.answer p s
    (result, t, seen ++ [p])

@[simp]
theorem answer_recorded (f : Callback (StateM σ) ε) (p : Pair) (s : σ) (seen : List Pair) :
    f.recorded.answer p (s, seen) = ((f.answer p s).1, (f.answer p s).2, seen ++ [p]) := rfl

theorem answer_through (f : Callback (StateM σ) ε) (g : Pair → Option Pair) (p : Pair) (s : σ) :
    (f.through g).answer p s =
      match g p with
      | some p' => f.answer p' s
      | none => (.ok (), s) := by
  unfold answer through
  cases g p with
  | none => rfl
  | some p' => rfl

theorem accepts_nil_iff {f : Callback (StateM σ) ε} {s t : σ} : f.Accepts s [] t ↔ t = s := by
  constructor
  . intro h
    cases h
    rfl
  . intro h
    rw [h]
    apply Accepts.nil

theorem accepts_cons_iff {f : Callback (StateM σ) ε} {s t : σ} {p : Pair} {ps : List Pair} :
    f.Accepts s (p :: ps) t ↔ ∃ s', f.answer p s = (.ok (), s') ∧ f.Accepts s' ps t := by
  constructor
  . intro h
    cases h with
    | cons hp hps => exact ⟨_, hp, hps⟩
  . intro ⟨s', hp, hps⟩
    apply Accepts.cons hp hps

theorem accepts_append_iff {f : Callback (StateM σ) ε} {s t : σ} {ps qs : List Pair} :
    f.Accepts s (ps ++ qs) t ↔ ∃ s', f.Accepts s ps s' ∧ f.Accepts s' qs t := by
  induction ps generalizing s with
  | nil => simp [accepts_nil_iff]
  | cons p ps ih =>
    simp only [List.cons_append, accepts_cons_iff, ih]
    grind

theorem accepts_foldl {f : Callback (StateM σ) ε} {step : σ → Pair → σ}
    (h : ∀ p s, f.answer p s = (.ok (), step s p)) (s : σ) (ps : List Pair) :
    f.Accepts s ps (ps.foldl step s) := by
  induction ps generalizing s with
  | nil => apply Accepts.nil
  | cons p ps ih => exact Accepts.cons (h p s) (ih (step s p))

theorem not_refuses_nil {f : Callback (StateM σ) ε} {s t : σ} {e : ε} : ¬f.Refuses s [] e t := by
  intro h
  cases h

theorem refuses_cons_iff {f : Callback (StateM σ) ε} {s t : σ} {p : Pair} {ps : List Pair}
    {e : ε} :
    f.Refuses s (p :: ps) e t ↔
      (ps = [] ∧ f.answer p s = (.error e, t)) ∨
      ∃ s', f.answer p s = (.ok (), s') ∧ f.Refuses s' ps e t := by
  constructor
  . intro h
    cases h with
    | last hp => exact .inl ⟨rfl, hp⟩
    | cons hp hps => exact .inr ⟨_, hp, hps⟩
  . intro h
    cases h with
    | inl h =>
      rw [h.1]
      apply Refuses.last h.2
    | inr h =>
      obtain ⟨s', hp, hps⟩ := h
      apply Refuses.cons hp hps

theorem refuses_iff {f : Callback (StateM σ) ε} {s t : σ} {ps : List Pair} {e : ε} :
    f.Refuses s ps e t ↔
      ∃ qs p s', ps = qs ++ [p] ∧ f.Accepts s qs s' ∧ f.answer p s' = (.error e, t) := by
  constructor
  . intro h
    induction h with
    | last hp => exact ⟨[], _, _, rfl, .nil _, hp⟩
    | cons hp _ ih =>
      obtain ⟨qs, q, s', hps, hqs, hq⟩ := ih
      refine ⟨_ :: qs, q, s', ?_, .cons hp hqs, hq⟩
      rw [hps]
      rfl
  . intro ⟨qs, p, s', hps, hqs, hp⟩
    rw [hps]
    clear hps
    induction hqs with
    | nil => apply Refuses.last hp
    | cons hq _ ih => apply Refuses.cons hq (ih hp)

theorem accepts_recorded_iff {f : Callback (StateM σ) ε} {s t : σ} {ps seen seen' : List Pair} :
    f.recorded.Accepts (s, seen) ps (t, seen') ↔ f.Accepts s ps t ∧ seen' = seen ++ ps := by
  induction ps generalizing s seen with
  | nil => simp [accepts_nil_iff]
  | cons p ps ih =>
    rw [accepts_cons_iff, accepts_cons_iff]
    rcases hp : f.answer p s with ⟨_ | _, s'⟩
    . simp [hp]
    . simp [hp, ih]

theorem refuses_recorded_iff {f : Callback (StateM σ) ε} {s t : σ} {ps seen seen' : List Pair}
    {e : ε} :
    f.recorded.Refuses (s, seen) ps e (t, seen') ↔ f.Refuses s ps e t ∧ seen' = seen ++ ps := by
  induction ps generalizing s seen with
  | nil => simp [not_refuses_nil]
  | cons p ps ih =>
    rw [refuses_cons_iff, refuses_cons_iff]
    rcases hp : f.answer p s with ⟨_ | _, s'⟩
    . simp [hp]
      grind
    . simp [hp, ih]

theorem accepts_through_iff {f : Callback (StateM σ) ε} {g : Pair → Option Pair} {s t : σ}
    {ps : List Pair} : (f.through g).Accepts s ps t ↔ f.Accepts s (ps.filterMap g) t := by
  induction ps generalizing s with
  | nil => simp [accepts_nil_iff]
  | cons p ps ih =>
    rw [accepts_cons_iff, List.filterMap_cons, answer_through]
    cases g p with
    | none => simp [ih]
    | some p' => simp [ih, accepts_cons_iff]

theorem Refuses.of_through {f : Callback (StateM σ) ε} {g : Pair → Option Pair} {s t : σ}
    {ps : List Pair} {e : ε} (h : (f.through g).Refuses s ps e t) :
    f.Refuses s (ps.filterMap g) e t ∧ ∃ qs p p', ps = qs ++ [p] ∧ g p = some p' := by
  rw [refuses_iff] at h
  obtain ⟨qs, p, s', rfl, hqs, hp⟩ := h
  rw [answer_through] at hp
  cases hg : g p with
  | none => simp [hg] at hp
  | some p' =>
    refine ⟨?_, qs, p, p', rfl, hg⟩
    rw [accepts_through_iff] at hqs
    rw [refuses_iff]
    refine ⟨qs.filterMap g, p', s', ?_, hqs, ?_⟩
    . simp [hg]
    . simpa [hg] using hp

end Callback

namespace Delivery

variable {σ ε : Type}

def result (rejected : Option MalformedEntry) : Except (TraversalError ε) Unit :=
  match rejected with
  | some e => .error (.source e)
  | none => .ok ()

theorem outcome_visit_nil (rejected : Option MalformedEntry) (f : Callback (StateM σ) ε) (s : σ) :
    (visit { pairs := [], rejected } f).outcome s = (result rejected, s) := by
  rw [visit_nil]
  cases rejected with
  | none => rfl
  | some e => rfl

theorem outcome_visit_cons (p : Pair) (ps : List Pair) (rejected : Option MalformedEntry)
    (f : Callback (StateM σ) ε) (s : σ) :
    (visit { pairs := p :: ps, rejected } f).outcome s =
      match f.answer p s with
      | (.ok (), t) => (visit { pairs := ps, rejected } f).outcome t
      | (.error e, t) => (.error (.callback e), t) := by
  have hdeliver : (f.deliver p).outcome s =
      ((f.answer p s).1.mapError .callback, (f.answer p s).2) := rfl
  rw [visit_cons]
  unfold Traversal.outcome at *
  rw [ExceptT.run_bind, StateT.run_bind, hdeliver]
  rcases f.answer p s with ⟨_ | _, t⟩
  . rfl
  . rfl

theorem outcome_visit_eq_result_iff (d : Delivery) (f : Callback (StateM σ) ε) (s t : σ)
    (rejected : Option MalformedEntry) :
    (d.visit f).outcome s = (result rejected, t) ↔
      d.rejected = rejected ∧ f.Accepts s d.pairs t := by
  obtain ⟨ps, rejected'⟩ := d
  induction ps generalizing s with
  | nil =>
    rw [outcome_visit_nil, Callback.accepts_nil_iff]
    cases rejected <;> cases rejected' <;> simp [result, eq_comm]
  | cons p ps ih =>
    rw [outcome_visit_cons, Callback.accepts_cons_iff]
    rcases f.answer p s with ⟨_ | _, s'⟩
    . cases rejected <;> simp [result]
    . simp [ih]

theorem fst_outcome_visit_eq_result_iff (d : Delivery) (f : Callback (StateM σ) ε) (s : σ) :
    ((d.visit f).outcome s).1 = result d.rejected ↔ ∃ t, f.Accepts s d.pairs t := by
  have hresult (t : σ) := d.outcome_visit_eq_result_iff f s t d.rejected
  constructor
  . intro h
    exact ⟨_, ((hresult _).mp (Prod.ext h rfl)).2⟩
  . intro ⟨t, h⟩
    rw [(hresult t).mpr ⟨rfl, h⟩]

theorem outcome_visit_eq_callback_iff (d : Delivery) (f : Callback (StateM σ) ε) (s t : σ)
    (e : ε) :
    (d.visit f).outcome s = (.error (.callback e), t) ↔
      ∃ ps, ps <+: d.pairs ∧ f.Refuses s ps e t := by
  obtain ⟨ps, rejected⟩ := d
  induction ps generalizing s with
  | nil =>
    rw [outcome_visit_nil]
    cases rejected <;> simp [result, Callback.not_refuses_nil]
  | cons p ps ih =>
    rw [outcome_visit_cons]
    simp only [List.prefix_cons_iff]
    -- The pairs up to the failure begin with `p`, for a callback never fails on no pair at all.
    have hfirst : (∃ qs, (qs = [] ∨ ∃ l, qs = p :: l ∧ l <+: ps) ∧ f.Refuses s qs e t) ↔
        ∃ l, l <+: ps ∧ f.Refuses s (p :: l) e t := by
      constructor
      . intro ⟨qs, hqs, h⟩
        cases hqs with
        | inl hnil => exact absurd (hnil ▸ h) Callback.not_refuses_nil
        | inr hcons =>
          obtain ⟨l, rfl, hl⟩ := hcons
          exact ⟨l, hl, h⟩
      . intro ⟨l, hl, h⟩
        exact ⟨p :: l, .inr ⟨l, rfl, hl⟩, h⟩
    rw [hfirst]
    simp only [Callback.refuses_cons_iff]
    rcases f.answer p s with ⟨_ | _, s'⟩
    . simp only [Prod.mk.injEq, Except.error.injEq, TraversalError.callback.injEq, reduceCtorEq,
        false_and, exists_false, or_false]
      constructor
      . intro h
        exact ⟨[], List.nil_prefix, rfl, h⟩
      . intro ⟨_, _, _, h⟩
        exact h
    . simp [ih]

theorem outcome_visit_recorded_eq_result_iff (d : Delivery) (f : Callback (StateM σ) ε) (s t : σ)
    (seen : List Pair) (rejected : Option MalformedEntry) :
    (d.visit f.recorded).outcome (s, []) = (result rejected, t, seen) ↔
      d.rejected = rejected ∧ f.Accepts s d.pairs t ∧ seen = d.pairs := by
  rw [outcome_visit_eq_result_iff, Callback.accepts_recorded_iff, List.nil_append]

theorem outcome_visit_recorded_eq_ok_iff (d : Delivery) (f : Callback (StateM σ) ε) (s t : σ)
    (seen : List Pair) :
    (d.visit f.recorded).outcome (s, []) = (.ok (), t, seen) ↔
      d.rejected = none ∧ f.Accepts s d.pairs t ∧ seen = d.pairs :=
  d.outcome_visit_recorded_eq_result_iff f s t seen none

theorem outcome_visit_recorded_eq_source_iff (d : Delivery) (f : Callback (StateM σ) ε) (s t : σ)
    (seen : List Pair) (e : MalformedEntry) :
    (d.visit f.recorded).outcome (s, []) = (.error (.source e), t, seen) ↔
      d.rejected = some e ∧ f.Accepts s d.pairs t ∧ seen = d.pairs :=
  d.outcome_visit_recorded_eq_result_iff f s t seen (some e)

theorem outcome_visit_recorded_eq_callback_iff (d : Delivery) (f : Callback (StateM σ) ε)
    (s t : σ) (seen : List Pair) (e : ε) :
    (d.visit f.recorded).outcome (s, []) = (.error (.callback e), t, seen) ↔
      seen <+: d.pairs ∧ f.Refuses s seen e t := by
  rw [outcome_visit_eq_callback_iff]
  simp only [Callback.refuses_recorded_iff, List.nil_append]
  constructor
  . intro ⟨ps, hps, h, hseen⟩
    rw [hseen]
    exact ⟨hps, h⟩
  . intro ⟨hseen, h⟩
    exact ⟨seen, hseen, h, rfl⟩

theorem outcome_visit_recorded (d : Delivery) (f : Callback (StateM σ) ε) (s : σ)
    (seen : List Pair) :
    (d.visit f).outcome s =
      (((d.visit f.recorded).outcome (s, seen)).1,
        ((d.visit f.recorded).outcome (s, seen)).2.1) := by
  obtain ⟨ps, rejected⟩ := d
  induction ps generalizing s seen with
  | nil => rw [outcome_visit_nil, outcome_visit_nil]
  | cons p ps ih =>
    rw [outcome_visit_cons, outcome_visit_cons, Callback.answer_recorded]
    rcases f.answer p s with ⟨_ | _, s'⟩
    . rfl
    . exact ih s' (seen ++ [p])

theorem outcome_visit_append_of_accepts {f : Callback (StateM σ) ε} {s t : σ} {ps : List Pair}
    (h : f.Accepts s ps t) (qs : List Pair) (rejected : Option MalformedEntry) :
    (visit { pairs := ps ++ qs, rejected } f).outcome s =
      (visit { pairs := qs, rejected } f).outcome t := by
  induction h with
  | nil => rfl
  | cons hp _ ih =>
    rw [List.cons_append, outcome_visit_cons, hp]
    exact ih

theorem outcome_visit_of_answer_ok {f : Callback (StateM σ) ε} {step : σ → Pair → σ}
    (h : ∀ p s, f.answer p s = (.ok (), step s p)) (d : Delivery) (s : σ) :
    (d.visit f).outcome s = (result d.rejected, d.pairs.foldl step s) := by
  rw [outcome_visit_eq_result_iff]
  exact ⟨rfl, Callback.accepts_foldl h s d.pairs⟩

theorem outcome_visit_of_answer_error {f : Callback (StateM σ) ε} {e : ε}
    (h : ∀ p s, f.answer p s = (.error e, s)) (d : Delivery) (s : σ) :
    (d.visit f).outcome s =
      (if d.pairs = [] then result d.rejected else .error (.callback e), s) := by
  obtain ⟨ps, rejected⟩ := d
  cases ps with
  | nil => simp [outcome_visit_nil]
  | cons p ps => simp [outcome_visit_cons, h]

theorem seen_isPrefix_outcome_visit_recorded (d : Delivery) (f : Callback (StateM σ) ε) (s : σ)
    (seen : List Pair) : seen <+: ((d.visit f.recorded).outcome (s, seen)).2.2 := by
  obtain ⟨ps, rejected⟩ := d
  induction ps generalizing s seen with
  | nil => simp [outcome_visit_nil]
  | cons p ps ih =>
    have hseen : seen <+: seen ++ [p] := List.prefix_append seen [p]
    rw [outcome_visit_cons, Callback.answer_recorded]
    rcases f.answer p s with ⟨_ | _, s'⟩
    . exact hseen
    . exact hseen.trans (ih s' (seen ++ [p]))

theorem seen_outcome_visit_recorded_isPrefix (d : Delivery) (f : Callback (StateM σ) ε) (s : σ) :
    ((d.visit f.recorded).outcome (s, [])).2.2 <+: d.pairs := by
  rcases houtcome : (d.visit f.recorded).outcome (s, []) with ⟨result, t, seen⟩
  match result with
  | .ok () =>
    rw [outcome_visit_recorded_eq_ok_iff] at houtcome
    obtain ⟨_, _, rfl⟩ := houtcome
    apply List.prefix_refl
  | .error (.source e) =>
    rw [outcome_visit_recorded_eq_source_iff] at houtcome
    obtain ⟨_, _, rfl⟩ := houtcome
    apply List.prefix_refl
  | .error (.callback e) =>
    rw [outcome_visit_recorded_eq_callback_iff] at houtcome
    exact houtcome.1

theorem fst_outcome_visit_ne_source {d : Delivery} (h : d.rejected = none)
    (f : Callback (StateM σ) ε) (s : σ) (e : MalformedEntry) :
    ((d.visit f).outcome s).1 ≠ .error (.source e) := by
  intro he
  have hresult := d.outcome_visit_eq_result_iff f s ((d.visit f).outcome s).2 (some e)
  have hrejected := (hresult.mp (Prod.ext he rfl)).1
  rw [h] at hrejected
  cases hrejected

end Delivery

namespace Callback

variable {σ ε : Type}

theorem exists_accepts_iff {f : Callback (StateM σ) ε} {s : σ} {ps : List Pair} :
    (∃ t, f.Accepts s ps t) ↔ ¬∃ qs e t, qs <+: ps ∧ f.Refuses s qs e t := by
  have hresult := Delivery.outcome_visit_eq_result_iff { pairs := ps } f s
  have hcallback := Delivery.outcome_visit_eq_callback_iff { pairs := ps } f s
  constructor
  . intro ⟨t, h⟩ ⟨qs, e, t', hqs⟩
    have hone := (hresult t none).mpr ⟨rfl, h⟩
    rw [(hcallback t' e).mpr ⟨qs, hqs⟩] at hone
    cases hone
  . intro h
    rcases houtcome : (Delivery.visit { pairs := ps } f).outcome s with ⟨result, t⟩
    match result with
    | .ok () => exact ⟨t, ((hresult t none).mp houtcome).2⟩
    | .error (.source e) => cases ((hresult t (some e)).mp houtcome).1
    | .error (.callback e) =>
      obtain ⟨qs, hqs⟩ := (hcallback t e).mp houtcome
      exact absurd ⟨qs, e, t, hqs⟩ h

end Callback

end KeyValue
