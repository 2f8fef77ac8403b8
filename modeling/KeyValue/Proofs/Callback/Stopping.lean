import KeyValue.Proofs.Callback.Run

namespace KeyValue

variable {α : Type}

theorem exists_append_singleton_prefix_iff {P : α → Prop} {xs : List α} :
    (∃ front x, front ++ [x] <+: xs ∧ P x) ↔ ∃ x ∈ xs, P x := by
  constructor
  . intro ⟨front, x, hprefix, hx⟩
    have hmem : x ∈ front ++ [x] := List.mem_concat_self
    exact ⟨x, hprefix.mem hmem, hx⟩
  . intro ⟨x, hmem, hx⟩
    obtain ⟨front, back, rfl⟩ := List.append_of_mem hmem
    refine ⟨front, x, ⟨back, ?_⟩, hx⟩
    rw [List.append_assoc, List.singleton_append]

theorem exists_append_singleton_prefix_length_iff {n : Nat} {xs : List α} :
    (∃ front x, front ++ [x] <+: xs ∧ front.length = n) ↔ n < xs.length := by
  constructor
  . intro ⟨front, x, hprefix, hlength⟩
    have hle := hprefix.length_le
    simp only [List.length_append, List.length_singleton] at hle
    omega
  . intro hlt
    refine ⟨xs.take n, xs[n], ?_, ?_⟩
    . rw [← List.take_succ_eq_append_getElem hlt]
      apply List.take_prefix
    . rw [List.length_take]
      omega

namespace Callback

variable {σ ε : Type}

/--
Started in `s`, the callback fails on a pair exactly if `stop` holds of the pairs that it has taken
so far and of this pair.
-/
def StopsAt (f : Callback (StateM σ) ε) (s : σ) (stop : List Pair → Pair → Prop) : Prop :=
  ∀ ps p t, f.Accepts s ps t → ((∃ e t', f.answer p t = (.error e, t')) ↔ stop ps p)

variable {f : Callback (StateM σ) ε} {s : σ} {stop : List Pair → Pair → Prop}

theorem StopsAt.of_refuses (h : f.StopsAt s stop) {ps : List Pair} {e : ε} {t : σ}
    (hrefuses : f.Refuses s ps e t) : ∃ qs p, ps = qs ++ [p] ∧ stop qs p := by
  rw [refuses_iff] at hrefuses
  obtain ⟨qs, p, s', hps, hqs, hp⟩ := hrefuses
  exact ⟨qs, p, hps, (h qs p s' hqs).mp ⟨e, t, hp⟩⟩

theorem StopsAt.exists_refuses_iff (h : f.StopsAt s stop) {ps : List Pair} :
    (∃ qs e t, qs <+: ps ∧ f.Refuses s qs e t) ↔ ∃ qs p, qs ++ [p] <+: ps ∧ stop qs p := by
  constructor
  . intro ⟨seen, e, t, hseen, hrefuses⟩
    obtain ⟨qs, p, rfl, hstop⟩ := h.of_refuses hrefuses
    exact ⟨qs, p, hseen, hstop⟩
  . intro ⟨qs, p, ⟨rest, hrest⟩, hstop⟩
    apply Classical.byContradiction
    intro hnone
    -- A callback that never fails takes `p` too, right after `qs`.
    rw [← exists_accepts_iff, ← hrest, List.append_assoc] at hnone
    obtain ⟨t, haccepts⟩ := hnone
    rw [accepts_append_iff] at haccepts
    obtain ⟨s', hqs, haccepts⟩ := haccepts
    rw [List.singleton_append, accepts_cons_iff] at haccepts
    obtain ⟨_, hp, _⟩ := haccepts
    obtain ⟨e, t', hfails⟩ := (h qs p s' hqs).mpr hstop
    rw [hp] at hfails
    cases hfails

def stopping (stop : List Pair → Pair → Bool) : Callback (StateM (List Pair)) Pair := fun p =>
  .mk fun taken => if stop taken p then (.error p, taken) else (.ok (), taken ++ [p])

theorem answer_stopping (stop : List Pair → Pair → Bool) (p : Pair) (taken : List Pair) :
    (stopping stop).answer p taken =
      if stop taken p then (.error p, taken) else (.ok (), taken ++ [p]) := rfl

theorem Accepts.eq_append_of_stopping {stop : List Pair → Pair → Bool} {taken ps t : List Pair}
    (h : (stopping stop).Accepts taken ps t) : t = taken ++ ps := by
  induction h with
  | nil => simp
  | cons hp _ ih =>
    rw [answer_stopping] at hp
    split at hp
    . cases hp
    . obtain ⟨_, rfl⟩ := Prod.mk.inj hp
      rw [ih, List.append_assoc, List.singleton_append]

theorem stopsAt_stopping (stop : List Pair → Pair → Bool) :
    (stopping stop).StopsAt [] fun taken p => stop taken p := by
  intro ps p t h
  rw [h.eq_append_of_stopping, answer_stopping, List.nil_append]
  cases hstop : stop ps p <;> simp [hstop]

end Callback

namespace Delivery

variable {σ ε : Type} {f : Callback (StateM σ) ε} {s : σ} {stop : List Pair → Pair → Prop}

theorem fails_iff_of_stopsAt (h : f.StopsAt s stop) (d : Delivery) :
    (∃ e t seen, (d.visit f.recorded).outcome (s, []) = (.error (.callback e), t, seen)) ↔
      ∃ qs p, qs ++ [p] <+: d.pairs ∧ stop qs p := by
  rw [← h.exists_refuses_iff]
  simp only [outcome_visit_recorded_eq_callback_iff]
  grind

theorem fails_iff_exists_mem {P : Pair → Prop} (h : f.StopsAt s fun _ p => P p) (d : Delivery) :
    (∃ e t seen, (d.visit f.recorded).outcome (s, []) = (.error (.callback e), t, seen)) ↔
      ∃ p ∈ d.pairs, P p := by
  rw [fails_iff_of_stopsAt h, exists_append_singleton_prefix_iff]

theorem fails_iff_lt_length {n : Nat} (h : f.StopsAt s fun qs _ => qs.length = n) (d : Delivery) :
    (∃ e t seen, (d.visit f.recorded).outcome (s, []) = (.error (.callback e), t, seen)) ↔
      n < d.pairs.length := by
  rw [fails_iff_of_stopsAt h, exists_append_singleton_prefix_length_iff]

theorem last_of_stopsAt (h : f.StopsAt s stop) {d : Delivery} {seen : List Pair} {e : ε} {t : σ}
    (houtcome : (d.visit f.recorded).outcome (s, []) = (.error (.callback e), t, seen)) :
    ∃ qs p, seen = qs ++ [p] ∧ stop qs p := by
  rw [outcome_visit_recorded_eq_callback_iff] at houtcome
  exact h.of_refuses houtcome.2

end Delivery

end KeyValue
