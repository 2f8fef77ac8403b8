import KeyValue.Proofs.Table.Agreement

/-!
This module contains the race of two failures in a list of entries: whichever comes first, an entry
without a separator or a pair on which the callback fails, ends the traversal.
-/

namespace KeyValue

def Pair.ofEntries (separator : Char) (entries : List String) : List Pair :=
  entries.filterMap (Pair.ofEntry? separator)

structure MalformedEntry.IsFirstOf (e : MalformedEntry) (separator : Char)
    (entries : List String) : Prop where
  separator_eq : e.separator = separator
  getElem?_index : entries[e.index]? = some e.entry
  not_mem : separator ∉ e.entry.toList
  mem_of_lt : ∀ i < e.index, ∀ entry, entries[i]? = some entry → separator ∈ entry.toList

/--
The callback is handed the pairs of the entries that hold the separator. It fails with `e` on that
of the entry at position `j`, but on none before. This takes its state from `s` to `t`.
-/
def Callback.FailsAt (f : Callback (StateM σ) ε) (separator : Char) (entries : List String) (s : σ)
    (j : Nat) (e : ε) (t : σ) : Prop :=
  ∃ entry p s', entries[j]? = some entry ∧ Pair.ofEntry? separator entry = some p
    ∧ f.Accepts s (Pair.ofEntries separator (entries.take j)) s' ∧ f.answer p s' = (.error e, t)

namespace MalformedEntry

theorem not_isFirstOf_nil {e : MalformedEntry} {separator : Char} : ¬e.IsFirstOf separator [] := by
  intro h
  have := h.getElem?_index
  simp at this

theorem IsFirstOf.cons {e : MalformedEntry} {separator : Char} {entry : String}
    {entries : List String} (hmem : separator ∈ entry.toList) (h : e.IsFirstOf separator entries) :
    { e with index := e.index + 1 : MalformedEntry }.IsFirstOf separator (entry :: entries) where
  separator_eq := h.separator_eq
  getElem?_index := by
    rw [List.getElem?_cons_succ]
    exact h.getElem?_index
  not_mem := h.not_mem
  mem_of_lt := by
    intro i hi x hx
    cases i with
    | zero =>
      rw [List.getElem?_cons_zero, Option.some.injEq] at hx
      exact hx ▸ hmem
    | succ i =>
      rw [List.getElem?_cons_succ] at hx
      apply h.mem_of_lt i _ x hx
      exact Nat.lt_of_succ_lt_succ hi

theorem IsFirstOf.tail {e : MalformedEntry} {separator : Char} {entry : String}
    {entries : List String} (hmem : separator ∈ entry.toList)
    (h : e.IsFirstOf separator (entry :: entries)) :
    { e with index := e.index - 1 : MalformedEntry }.IsFirstOf separator entries := by
  obtain ⟨index, x, c⟩ := e
  obtain ⟨hseparator, hindex, hnot, hlt⟩ := h
  cases index with
  | zero =>
    rw [List.getElem?_cons_zero, Option.some.injEq] at hindex
    exact absurd (hindex ▸ hmem) hnot
  | succ index =>
    refine ⟨hseparator, hindex, hnot, ?_⟩
    intro i hi y hy
    apply hlt (i + 1) _ y hy
    exact Nat.succ_lt_succ hi

theorem isFirstOf_cons_of_not_mem {separator : Char} {entry : String} {entries : List String}
    (hmem : separator ∉ entry.toList) :
    { index := 0, entry, separator : MalformedEntry }.IsFirstOf separator (entry :: entries) where
  separator_eq := rfl
  getElem?_index := rfl
  not_mem := hmem
  mem_of_lt := by
    intro i hi
    cases hi

theorem IsFirstOf.unique {e e' : MalformedEntry} {separator : Char} {entries : List String}
    (h : e.IsFirstOf separator entries) (h' : e'.IsFirstOf separator entries) : e = e' := by
  have hindex : e.index = e'.index := by
    apply Nat.le_antisymm
    . apply Nat.le_of_not_lt
      intro hlt
      exact h'.not_mem (h.mem_of_lt _ hlt _ h'.getElem?_index)
    . apply Nat.le_of_not_lt
      intro hlt
      exact h.not_mem (h'.mem_of_lt _ hlt _ h.getElem?_index)
  have hentry := h.getElem?_index
  rw [hindex, h'.getElem?_index, Option.some.injEq] at hentry
  obtain ⟨index, entry, c⟩ := e
  obtain ⟨index', entry', c'⟩ := e'
  have hseparator := h.separator_eq.trans h'.separator_eq.symm
  simp only at hindex hentry hseparator
  rw [hindex, hentry, hseparator]

theorem forall_not_isFirstOf_iff {separator : Char} {entries : List String} :
    (∀ e : MalformedEntry, ¬e.IsFirstOf separator entries) ↔
      ∀ entry ∈ entries, separator ∈ entry.toList := by
  constructor
  . intro h
    induction entries with
    | nil => simp
    | cons entry entries ih =>
      have hmem : separator ∈ entry.toList := by
        apply Decidable.of_not_not
        intro hnot
        apply h _ (isFirstOf_cons_of_not_mem hnot)
      rw [List.forall_mem_cons]
      refine ⟨hmem, ih ?_⟩
      intro e he
      apply h _ (he.cons hmem)
  . intro h e he
    apply he.not_mem
    apply h
    apply List.mem_of_getElem? he.getElem?_index

end MalformedEntry

namespace Callback

variable {σ ε : Type}

theorem failsAt_take_iff {f : Callback (StateM σ) ε} {separator : Char} {entries : List String}
    {s t : σ} {j n : Nat} {e : ε} :
    f.FailsAt separator (entries.take n) s j e t ↔ j < n ∧ f.FailsAt separator entries s j e t := by
  unfold FailsAt
  by_cases hj : j < n
  . rw [List.getElem?_take_of_lt hj, List.take_take, Nat.min_eq_left (Nat.le_of_lt hj)]
    simp [hj]
  . rw [List.getElem?_take_eq_none (Nat.le_of_not_lt hj)]
    simp [hj]

theorem refuses_prefix_ofEntries_iff {f : Callback (StateM σ) ε} {separator : Char}
    {entries : List String} {s t : σ} {seen : List Pair} {e : ε} :
    (seen <+: Pair.ofEntries separator entries ∧ f.Refuses s seen e t) ↔
      ∃ j, f.FailsAt separator entries s j e t
        ∧ seen = Pair.ofEntries separator (entries.take (j + 1)) := by
  constructor
  . intro ⟨⟨rest, hrest⟩, hrefuses⟩
    rw [refuses_iff] at hrefuses
    obtain ⟨qs, p, s', rfl, hqs, hp⟩ := hrefuses
    rw [List.append_assoc, eq_comm, Pair.ofEntries, List.filterMap_eq_append_iff] at hrest
    obtain ⟨front, back, rfl, hfront, hback⟩ := hrest
    rw [List.singleton_append, List.filterMap_eq_cons_iff] at hback
    obtain ⟨skipped, entry, behind, rfl, hskipped, hentry, _⟩ := hback
    -- Entries without the separator may lie in front of the one that the pair comes from.
    have htake : (front ++ (skipped ++ entry :: behind)).take (front ++ skipped).length =
        front ++ skipped := by
      rw [← List.append_assoc, List.take_left]
    have hpairs : Pair.ofEntries separator (front ++ skipped) = qs := by
      rw [Pair.ofEntries, List.filterMap_append, hfront]
      rw [List.filterMap_eq_nil_iff.mpr hskipped, List.append_nil]
    have hget : (front ++ (skipped ++ entry :: behind))[(front ++ skipped).length]? =
        some entry := by
      rw [← List.append_assoc]
      simp
    refine ⟨(front ++ skipped).length, ⟨entry, p, s', hget, hentry, ?_, hp⟩, ?_⟩
    . rw [htake, hpairs]
      exact hqs
    . rw [List.take_add_one, htake, hget, Pair.ofEntries, List.filterMap_append]
      rw [← Pair.ofEntries, hpairs]
      simp [hentry]
  . intro ⟨j, ⟨entry, p, s', hget, hentry, hqs, hp⟩, hseen⟩
    constructor
    . rw [hseen]
      apply List.IsPrefix.filterMap
      apply List.take_prefix
    . rw [refuses_iff]
      refine ⟨_, p, s', ?_, hqs, hp⟩
      rw [hseen, List.take_add_one, hget, Pair.ofEntries, List.filterMap_append]
      simp [Pair.ofEntries, hentry]

theorem exists_accepts_take_iff {f : Callback (StateM σ) ε} {separator : Char}
    {entries : List String} {s : σ} {n : Nat} :
    (∃ t, f.Accepts s (Pair.ofEntries separator (entries.take n)) t) ↔
      ∀ j < n, ¬∃ e t, f.FailsAt separator entries s j e t := by
  rw [exists_accepts_iff]
  constructor
  . intro h j hj ⟨e, t, hfails⟩
    have hfails := failsAt_take_iff.mpr ⟨hj, hfails⟩
    exact h ⟨_, e, t, refuses_prefix_ofEntries_iff.mpr ⟨j, hfails, rfl⟩⟩
  . intro h ⟨qs, e, t, hqs⟩
    obtain ⟨j, hfails, _⟩ := refuses_prefix_ofEntries_iff.mp hqs
    rw [failsAt_take_iff] at hfails
    exact h j hfails.1 ⟨e, t, hfails.2⟩

end Callback

namespace EntryFormat

theorem delivery_skip (separator : Char) (entries : List String) (start : Nat) :
    delivery { separator, onMalformed := .skip } entries start =
      { pairs := Pair.ofEntries separator entries } := rfl

theorem delivery_reject (separator : Char) (entries : List String) (start : Nat) :
    (∃ e : MalformedEntry, e.IsFirstOf separator entries ∧
      delivery { separator, onMalformed := .reject } entries start =
        { pairs := Pair.ofEntries separator (entries.take e.index)
          rejected := some { e with index := start + e.index } })
    ∨ ((∀ e : MalformedEntry, ¬e.IsFirstOf separator entries) ∧
      delivery { separator, onMalformed := .reject } entries start =
        { pairs := Pair.ofEntries separator entries }) := by
  induction entries generalizing start with
  | nil =>
    right
    constructor
    . intro e
      apply MalformedEntry.not_isFirstOf_nil
    . rfl
  | cons entry entries ih =>
    cases hp : Pair.ofEntry? separator entry with
    | none =>
      left
      rw [delivery_cons_of_none hp]
      rw [Pair.ofEntry?_eq_none_iff] at hp
      exact ⟨_, MalformedEntry.isFirstOf_cons_of_not_mem hp, rfl⟩
    | some p =>
      have hmem : separator ∈ entry.toList := by
        apply Decidable.of_not_not
        intro hnot
        rw [← Pair.ofEntry?_eq_none_iff, hp] at hnot
        cases hnot
      rw [delivery_cons_of_some hp]
      cases ih (start + 1) with
      | inl h =>
        obtain ⟨e, he, hdelivery⟩ := h
        left
        refine ⟨_, he.cons hmem, ?_⟩
        have hindex : start + 1 + e.index = start + (e.index + 1) := by omega
        simp [hdelivery, Pair.ofEntries, hp, hindex]
      | inr h =>
        obtain ⟨hnone, hdelivery⟩ := h
        right
        constructor
        . intro e he
          exact hnone _ (he.tail hmem)
        . simp [hdelivery, Pair.ofEntries, hp]

theorem rejected_reject_eq_some_iff {separator : Char} {entries : List String}
    {e : MalformedEntry} :
    (delivery { separator, onMalformed := .reject } entries).rejected = some e ↔
      e.IsFirstOf separator entries := by
  cases delivery_reject separator entries 0 with
  | inl h =>
    obtain ⟨m, hm, hdelivery⟩ := h
    rw [hdelivery]
    simp only [Nat.zero_add, Option.some.injEq]
    constructor
    . intro he
      exact he ▸ hm
    . intro he
      apply hm.unique he
  | inr h =>
    rw [h.2]
    simp [h.1 e]

theorem pairs_reject_of_isFirstOf {separator : Char} {entries : List String} {e : MalformedEntry}
    (h : e.IsFirstOf separator entries) :
    (delivery { separator, onMalformed := .reject } entries).pairs =
      Pair.ofEntries separator (entries.take e.index) := by
  cases delivery_reject separator entries 0 with
  | inl h' =>
    obtain ⟨m, hm, hdelivery⟩ := h'
    rw [hdelivery, h.unique hm]
  | inr h' => exact absurd h (h'.1 e)

theorem delivery_reject_of_not_isFirstOf {separator : Char} {entries : List String}
    (h : ∀ e : MalformedEntry, ¬e.IsFirstOf separator entries) :
    delivery { separator, onMalformed := .reject } entries =
      { pairs := Pair.ofEntries separator entries } := by
  cases delivery_reject separator entries 0 with
  | inl h' =>
    obtain ⟨m, hm, _⟩ := h'
    exact absurd hm (h m)
  | inr h' => exact h'.2

theorem rejected_reject_eq_none_iff {separator : Char} {entries : List String} :
    (delivery { separator, onMalformed := .reject } entries).rejected = none ↔
      ∀ e : MalformedEntry, ¬e.IsFirstOf separator entries := by
  rw [Option.eq_none_iff_forall_ne_some]
  simp only [Ne, rejected_reject_eq_some_iff]

theorem refuses_prefix_pairs_reject_iff {σ ε : Type} {separator : Char} {entries : List String}
    {f : Callback (StateM σ) ε} {s t : σ} {seen : List Pair} {e : ε} :
    (seen <+: (delivery { separator, onMalformed := .reject } entries).pairs
      ∧ f.Refuses s seen e t) ↔
      ∃ j, f.FailsAt separator entries s j e t
        ∧ (∀ m : MalformedEntry, m.IsFirstOf separator entries → j < m.index)
        ∧ seen = Pair.ofEntries separator (entries.take (j + 1)) := by
  by_cases hfirst : ∃ m : MalformedEntry, m.IsFirstOf separator entries
  . obtain ⟨m, hm⟩ := hfirst
    -- Only the entries in front of `m` are read, so the failure is looked for among these.
    rw [pairs_reject_of_isFirstOf hm, Callback.refuses_prefix_ofEntries_iff]
    constructor
    . intro ⟨j, hfails, hseen⟩
      rw [Callback.failsAt_take_iff] at hfails
      rw [List.take_take, Nat.min_eq_left hfails.1] at hseen
      refine ⟨j, hfails.2, ?_, hseen⟩
      intro m' hm'
      rw [hm'.unique hm]
      exact hfails.1
    . intro ⟨j, hfails, hlt, hseen⟩
      have hj := hlt m hm
      refine ⟨j, Callback.failsAt_take_iff.mpr ⟨hj, hfails⟩, ?_⟩
      rw [List.take_take, Nat.min_eq_left hj]
      exact hseen
  . have hnone := not_exists.mp hfirst
    rw [delivery_reject_of_not_isFirstOf hnone, Callback.refuses_prefix_ofEntries_iff]
    simp [hnone]

theorem first_failure_ends_visit {σ ε : Type} (separator : Char) (entries : List String)
    (f : Callback (StateM σ) ε) (s t : σ) (seen : List Pair) :
    let strict : EntryFormat := { separator, onMalformed := .reject }
    let lenient : EntryFormat := { separator, onMalformed := .skip }
    let pairs (n : Nat) := Pair.ofEntries separator (entries.take n)
    let run (format : EntryFormat) := (format.visit entries f.recorded).outcome (s, [])
    (∀ format, (EntryList.visit { entries, format } f.recorded).outcome (s, []) = run format
      ∧ (format.visit entries f).outcome s = ((run format).1, (run format).2.1))
    ∧ (∀ n, (∃ s', f.Accepts s (pairs n) s') ↔
      ∀ j < n, ¬∃ e s', f.FailsAt separator entries s j e s')
    ∧ (∀ e, run strict = (.error (.callback e), t, seen) ↔
      ∃ j, f.FailsAt separator entries s j e t
        ∧ (∀ m : MalformedEntry, m.IsFirstOf separator entries → j < m.index)
        ∧ seen = pairs (j + 1))
    ∧ (∀ e, run strict = (.error (.source e), t, seen) ↔
      e.IsFirstOf separator entries ∧ f.Accepts s (pairs e.index) t ∧ seen = pairs e.index)
    ∧ (run strict = (.ok (), t, seen) ↔
      (∀ m : MalformedEntry, ¬m.IsFirstOf separator entries)
        ∧ f.Accepts s (pairs entries.length) t ∧ seen = pairs entries.length)
    ∧ (∀ e, run lenient = (.error (.callback e), t, seen) ↔
      ∃ j, f.FailsAt separator entries s j e t ∧ seen = pairs (j + 1))
    ∧ (∀ e, run lenient ≠ (.error (.source e), t, seen))
    ∧ (run lenient = (.ok (), t, seen) ↔
      f.Accepts s (pairs entries.length) t ∧ seen = pairs entries.length)
    ∧ (∀ e, Table.ofEntries strict entries = .error e ↔ e.IsFirstOf separator entries)
    ∧ (∀ e, Table.ofEntries lenient entries ≠ .error e) := by
  intro strict lenient pairs run
  have hlength : pairs entries.length = Pair.ofEntries separator entries := by
    simp [pairs]
  have hrun (format : EntryFormat) :
      run format = ((format.delivery entries).visit f.recorded).outcome (s, []) := by
    simp only [run, visit_eq]
  have hlenient : lenient.delivery entries = { pairs := Pair.ofEntries separator entries } := by
    apply delivery_skip
  rw [hlength]
  refine ⟨?_, ?_, ?_, ?_, ?_, ?_, ?_, ?_, ?_, ?_⟩
  . intro format
    refine ⟨rfl, ?_⟩
    rw [hrun, visit_eq]
    apply Delivery.outcome_visit_recorded
  . intro n
    apply Callback.exists_accepts_take_iff
  . intro e
    rw [hrun, Delivery.outcome_visit_recorded_eq_callback_iff]
    apply refuses_prefix_pairs_reject_iff
  . intro e
    have hresult := Delivery.outcome_visit_recorded_eq_result_iff (strict.delivery entries) f s t
      seen (some e)
    rw [hrun]
    apply hresult.trans
    rw [rejected_reject_eq_some_iff]
    apply and_congr_right
    intro he
    rw [pairs_reject_of_isFirstOf he]
  . have hresult := Delivery.outcome_visit_recorded_eq_result_iff (strict.delivery entries) f s t
      seen none
    rw [hrun]
    apply hresult.trans
    rw [rejected_reject_eq_none_iff]
    apply and_congr_right
    intro hnone
    rw [delivery_reject_of_not_isFirstOf hnone]
  . intro e
    rw [hrun, Delivery.outcome_visit_recorded_eq_callback_iff, hlenient]
    apply Callback.refuses_prefix_ofEntries_iff
  . intro e h
    rw [hrun, hlenient] at h
    have hresult := (Delivery.outcome_visit_recorded_eq_result_iff _ f s t seen (some e)).mp h
    cases hresult.1
  . have hresult := Delivery.outcome_visit_recorded_eq_result_iff (lenient.delivery entries) f s t
      seen none
    rw [hrun]
    apply hresult.trans
    simp [hlenient]
  . intro e
    rw [Table.ofEntries_eq, Delivery.fold, ← rejected_reject_eq_some_iff]
    cases (strict.delivery entries).rejected with
    | none => simp
    | some m => simp
  . intro e
    rw [Table.ofEntries_eq, Delivery.fold, hlenient]
    simp

end EntryFormat

end KeyValue
