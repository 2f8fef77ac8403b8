import KeyValue.Proofs.Pipeline.Outcome

namespace KeyValue

namespace FlatPairs

variable {strings : List String} {l l' : FlatPairs}

theorem ofList_eq_error_iff :
    ofList strings = .error .oddLength ↔ strings.length % 2 = 1 := by
  unfold ofList
  split
  . simp_all
  . simp_all

theorem ofList_eq_ok_iff : ofList strings = .ok l ↔ l.strings = strings := by
  obtain ⟨strings', even⟩ := l
  unfold ofList
  split
  . simp [eq_comm]
  next hodd =>
    constructor
    . intro h
      cases h
    . intro h
      rw [← h] at hodd
      exact absurd even hodd

theorem exists_ofList_eq_ok_iff :
    (∃ flat, ofList strings = .ok flat) ↔ strings.length % 2 = 0 := by
  simp only [ofList_eq_ok_iff]
  constructor
  . intro ⟨flat, h⟩
    rw [← h]
    exact flat.even
  . intro even
    exact ⟨⟨strings, even⟩, rfl⟩

theorem length_flatten (ps : List Pair) : (flatten ps).length = 2 * ps.length := by
  induction ps with
  | nil => rfl
  | cons p ps ih =>
    rw [flatten, List.flatMap_cons, List.length_append, ← flatten, ih]
    simp only [List.length_cons, List.length_nil]
    omega

theorem exists_ofList_flatten (ps : List Pair) :
    ∃ flat, ofList (flatten ps) = .ok flat ∧ flat.toPairs = ps := by
  have heven : (flatten ps).length % 2 = 0 := by
    rw [length_flatten, Nat.mul_mod_right]
  refine ⟨⟨flatten ps, heven⟩, ?_, ?_⟩
  . rw [ofList, dif_pos heven]
  . rw [toPairs, pairUp_flatten]

theorem getElem?_pairUp_eq_some_iff {i : Nat} {p : Pair} :
    (pairUp strings)[i]? = some p ↔
      strings[2 * i]? = some p.key ∧ strings[2 * i + 1]? = some p.value := by
  fun_induction pairUp strings generalizing i with
  | case1 key value rest ih =>
    cases i with
    | zero =>
      obtain ⟨pkey, pvalue⟩ := p
      simp
    | succ i =>
      rw [List.getElem?_cons_succ, ih]
      rfl
  | case2 strings hne =>
    rcases strings with _ | ⟨key, _ | ⟨value, rest⟩⟩
    . simp
    . simp
    . exact absurd rfl (hne key value rest)

theorem flatten_toPairs (l : FlatPairs) : flatten l.toPairs = l.strings :=
  flatten_pairUp l.strings l.even

theorem toPairs_inj : l.toPairs = l'.toPairs ↔ l = l' := by
  constructor
  . intro h
    have hstrings : l.strings = l'.strings := by
      rw [← flatten_toPairs, h, flatten_toPairs]
    obtain ⟨strings, even⟩ := l
    obtain ⟨strings', even'⟩ := l'
    simp only at hstrings
    simp only [hstrings]
  . intro h
    rw [h]

theorem isEmpty_iff : l.isEmpty = true ↔ l.toPairs = [] := by
  rw [isEmpty, List.isEmpty_iff, ← flatten_toPairs]
  cases l.toPairs with
  | nil => simp [flatten]
  | cons p ps => simp [flatten]

theorem collect_of_source (l : FlatPairs) :
    ({ source := .pairs l } : Pipeline).collect = .ok l.toPairs := by
  rw [Pipeline.collect_of_source]
  rfl

theorem collect_inverts_flatten (xs : List String) (ps : List Pair) (l l' : FlatPairs) :
    let pipeline (l : FlatPairs) : Pipeline := { source := .pairs l }
    (ofList xs = .error .oddLength ↔ xs.length % 2 = 1)
    ∧ ((∃ flat, ofList xs = .ok flat) ↔ xs.length % 2 = 0)
    ∧ (ofList xs = .ok l ↔ l.strings = xs)
    ∧ ofList [] = .ok {}
    ∧ (∃ qs, (pipeline l).collect = .ok qs
      ∧ qs.length = l.size
      ∧ (∀ i p, qs[i]? = some p ↔
        l.strings[2 * i]? = some p.key ∧ l.strings[2 * i + 1]? = some p.value)
      ∧ flatten qs = l.strings
      ∧ ∀ (σ ε : Type) (f : Callback (StateM σ) ε) (s : σ),
        let run := ((pipeline l).visit f.recorded).outcome (s, [])
        run.2.2 <+: qs
        ∧ (∀ t seen, run = (.ok (), t, seen) ↔ f.Accepts s qs t ∧ seen = qs)
        ∧ ∀ e, run.1 ≠ .error (.source e))
    ∧ (∃ flat, ofList (flatten ps) = .ok flat ∧ (pipeline flat).collect = .ok ps)
    ∧ (l.isEmpty = true ↔ (pipeline l).collect = .ok [])
    ∧ (l = l' ↔ (pipeline l).collect = (pipeline l').collect) := by
  intro pipeline
  refine ⟨?_, ?_, ?_, ?_, ⟨l.toPairs, ?_, ?_, ?_, ?_, ?_⟩, ?_, ?_, ?_⟩
  . apply ofList_eq_error_iff
  . apply exists_ofList_eq_ok_iff
  . apply ofList_eq_ok_iff
  . rfl
  . apply collect_of_source
  . apply length_toPairs
  . intro i p
    apply getElem?_pairUp_eq_some_iff
  . apply flatten_toPairs
  . intro σ ε f s run
    have hrun : run = (l.delivery.visit f.recorded).outcome (s, []) := by
      simp only [run, pipeline, Pipeline.visit_of_source]
      rfl
    rw [hrun]
    refine ⟨?_, ?_, ?_⟩
    . apply l.delivery.seen_outcome_visit_recorded_isPrefix
    . intro t seen
      rw [Delivery.outcome_visit_recorded_eq_ok_iff]
      apply and_iff_right rfl
    . apply Delivery.fst_outcome_visit_ne_source
      rfl
  . obtain ⟨flat, hflat, hps⟩ := exists_ofList_flatten ps
    refine ⟨flat, hflat, ?_⟩
    rw [← hps]
    apply collect_of_source
  . rw [isEmpty_iff, collect_of_source, Except.ok.injEq]
  . rw [collect_of_source, collect_of_source, Except.ok.injEq, toPairs_inj]

end FlatPairs

end KeyValue
