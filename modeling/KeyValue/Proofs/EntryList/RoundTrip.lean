import KeyValue.Proofs.EntryList.FirstFailure

namespace KeyValue

namespace Pair

def toEntries (separator : Char) (ps : List Pair) : List String :=
  ps.map (toEntry separator)

theorem ofEntries_filter (separator : Char) (entries : List String) :
    ofEntries separator (entries.filter (separator ∈ ·.toList)) = ofEntries separator entries := by
  have hread (entry : String) :
      (if separator ∈ entry.toList then ofEntry? separator entry else none) =
        ofEntry? separator entry := by
    split
    . rfl
    . next hmem => rw [ofEntry?_eq_none_iff.mpr hmem]
  rw [ofEntries, ofEntries, List.filterMap_filter]
  simp only [decide_eq_true_eq, hread]

theorem ofEntries_take_append_drop (separator : Char) (entries : List String) (n : Nat) :
    ofEntries separator (entries.take n) ++ ofEntries separator (entries.drop n) =
      ofEntries separator entries := by
  rw [ofEntries, ofEntries, ofEntries, ← List.filterMap_append, List.take_append_drop]

theorem not_mem_key_of_mem_ofEntries {separator : Char} {entries : List String} {p : Pair}
    (h : p ∈ ofEntries separator entries) : separator ∉ p.key.toList := by
  rw [ofEntries, List.mem_filterMap] at h
  obtain ⟨entry, _, hentry⟩ := h
  apply (ofEntry?_eq_some hentry).1

theorem mem_toList_of_mem_toEntries {separator : Char} {ps : List Pair} {entry : String}
    (h : entry ∈ toEntries separator ps) : separator ∈ entry.toList := by
  rw [toEntries, List.mem_map] at h
  obtain ⟨p, _, hp⟩ := h
  rw [← hp, toList_toEntry]
  simp

theorem ofEntries_toEntries {separator : Char} {ps : List Pair}
    (h : ∀ p ∈ ps, separator ∉ p.key.toList) :
    ofEntries separator (toEntries separator ps) = ps := by
  induction ps with
  | nil => rfl
  | cons p ps ih =>
    rw [List.forall_mem_cons] at h
    specialize ih h.2
    rw [toEntries, ofEntries] at *
    rw [List.map_cons, List.filterMap_cons, ofEntry?_toEntry h.1, ih]

theorem ofEntries_toEntries_eq_self_iff {separator : Char} {ps : List Pair} :
    ofEntries separator (toEntries separator ps) = ps ↔ ∀ p ∈ ps, separator ∉ p.key.toList := by
  constructor
  . intro h p hp
    rw [← h] at hp
    apply not_mem_key_of_mem_ofEntries hp
  . exact ofEntries_toEntries

theorem toEntries_ofEntries (separator : Char) (entries : List String) :
    toEntries separator (ofEntries separator entries) =
      entries.filter (separator ∈ ·.toList) := by
  induction entries with
  | nil => rfl
  | cons entry entries ih =>
    rw [toEntries, ofEntries] at *
    rw [List.filterMap_cons, List.filter_cons]
    cases hp : ofEntry? separator entry with
    | none =>
      rw [ofEntry?_eq_none_iff] at hp
      simpa [hp] using ih
    | some p =>
      have hmem : separator ∈ entry.toList := by
        rw [← (ofEntry?_eq_some hp).2, toList_toEntry]
        simp
      simpa [hmem, (ofEntry?_eq_some hp).2] using ih

theorem ofEntries_eq_iff {separator : Char} {entries : List String} {ps : List Pair} :
    ofEntries separator entries = ps ↔
      (∀ p ∈ ps, separator ∉ p.key.toList)
      ∧ toEntries separator ps = entries.filter (separator ∈ ·.toList) := by
  constructor
  . intro h
    rw [← h, toEntries_ofEntries]
    exact ⟨fun p => not_mem_key_of_mem_ofEntries, rfl⟩
  . intro ⟨hkey, hentries⟩
    rw [← ofEntries_filter, ← hentries, ofEntries_toEntries hkey]

end Pair

namespace EntryFormat

def pipeline (format : EntryFormat) (entries : List String) (stages : List Stage := []) :
    Pipeline :=
  let list : EntryList := { entries }
  { source := .entries (list.withFormat format), stages }

theorem delivery_pipeline (format : EntryFormat) (entries : List String) (stages : List Stage) :
    (format.pipeline entries stages).delivery =
      (format.delivery entries).filterMap (Stage.applyAll stages) := rfl

theorem collect_pipeline (format : EntryFormat) (entries : List String) :
    (format.pipeline entries).collect = (format.delivery entries).collect := by
  rw [pipeline, Pipeline.collect_of_source]
  rfl

theorem toTable_pipeline (format : EntryFormat) (entries : List String) :
    (format.pipeline entries).toTable = Table.ofEntries format entries := by
  rw [pipeline, Pipeline.toTable, Pipeline.fold_eq, Pipeline.delivery_of_source, Table.ofEntries_eq]
  rfl

variable {separator : Char} {entries : List String} {ps : List Pair}

theorem collect_skip (separator : Char) (entries : List String) :
    (pipeline { separator, onMalformed := .skip } entries).collect =
      .ok (Pair.ofEntries separator entries) := by
  rw [collect_pipeline, delivery_skip, Delivery.collect]

theorem collect_reject_eq_ok_iff :
    (pipeline { separator, onMalformed := .reject } entries).collect = .ok ps ↔
      (∀ entry ∈ entries, separator ∈ entry.toList) ∧ Pair.ofEntries separator entries = ps := by
  rw [collect_pipeline, Delivery.collect, ← MalformedEntry.forall_not_isFirstOf_iff]
  constructor
  . intro h
    cases hrejected : (delivery { separator, onMalformed := .reject } entries).rejected with
    | some e => simp [hrejected] at h
    | none =>
      rw [rejected_reject_eq_none_iff] at hrejected
      rw [delivery_reject_of_not_isFirstOf hrejected] at h
      exact ⟨hrejected, Except.ok.inj h⟩
  . rintro ⟨hnone, hps⟩
    rw [delivery_reject_of_not_isFirstOf hnone, hps]

theorem collect_eq_ok_iff {format : EntryFormat} {entries : List String} {ps : List Pair} :
    (format.pipeline entries).collect = .ok ps ↔
      (format.onMalformed = .skip ∨ ∀ entry ∈ entries, format.separator ∈ entry.toList)
        ∧ Pair.ofEntries format.separator entries = ps := by
  obtain ⟨separator, policy⟩ := format
  cases policy with
  | skip => simp [collect_skip]
  | reject => simp [collect_reject_eq_ok_iff]

theorem collect_skip_eq_ok_iff :
    (pipeline { separator, onMalformed := .skip } entries).collect = .ok ps ↔
      (∀ p ∈ ps, separator ∉ p.key.toList)
        ∧ Pair.toEntries separator ps = entries.filter (separator ∈ ·.toList) := by
  rw [collect_skip, Except.ok.injEq, Pair.ofEntries_eq_iff]

theorem collect_reject_eq_ok_iff_toEntries_eq :
    (pipeline { separator, onMalformed := .reject } entries).collect = .ok ps ↔
      (∀ p ∈ ps, separator ∉ p.key.toList) ∧ Pair.toEntries separator ps = entries := by
  have hfilter := List.filter_eq_self (p := (separator ∈ ·.toList)) (l := entries)
  simp only [decide_eq_true_eq] at hfilter
  rw [collect_reject_eq_ok_iff, Pair.ofEntries_eq_iff]
  constructor
  . intro ⟨hmem, hkey, hentries⟩
    rw [hfilter.mpr hmem] at hentries
    exact ⟨hkey, hentries⟩
  . intro ⟨hkey, hentries⟩
    have hmem : ∀ entry ∈ entries, separator ∈ entry.toList := by
      intro entry hentry
      apply Pair.mem_toList_of_mem_toEntries
      rw [hentries]
      exact hentry
    rw [hfilter.mpr hmem]
    exact ⟨hmem, hkey, hentries⟩

theorem delivery_toEntries (policy : MalformedPolicy) (separator : Char) (ps : List Pair) :
    delivery { separator, onMalformed := policy } (Pair.toEntries separator ps) =
      { pairs := Pair.ofEntries separator (Pair.toEntries separator ps) } := by
  cases policy with
  | skip => apply delivery_skip
  | reject =>
    apply delivery_reject_of_not_isFirstOf
    rw [MalformedEntry.forall_not_isFirstOf_iff]
    intro entry hentry
    apply Pair.mem_toList_of_mem_toEntries hentry

theorem collect_toEntries_eq_ok_iff (policy : MalformedPolicy) :
    (pipeline { separator, onMalformed := policy } (Pair.toEntries separator ps)).collect = .ok ps ↔
      ∀ p ∈ ps, separator ∉ p.key.toList := by
  rw [collect_pipeline, delivery_toEntries, Delivery.collect, Except.ok.injEq,
    Pair.ofEntries_toEntries_eq_self_iff]

theorem delivery_toEntries_eq_iff {policy : MalformedPolicy} :
    delivery { separator, onMalformed := policy } (Pair.toEntries separator ps) = { pairs := ps } ↔
      ∀ p ∈ ps, separator ∉ p.key.toList := by
  rw [← collect_toEntries_eq_ok_iff policy, collect_pipeline, Delivery.collect_eq_ok_iff]

theorem collect_inverts_toEntries (separator : Char) (entries entries' : List String)
    (ps : List Pair) :
    let collect (policy : MalformedPolicy) (entries : List String) :=
      (pipeline { separator, onMalformed := policy } entries).collect
    (∀ policy, collect policy (Pair.toEntries separator ps) = .ok ps ↔
      ∀ p ∈ ps, separator ∉ p.key.toList)
    ∧ (collect .reject entries = .ok ps ↔
      (∀ p ∈ ps, separator ∉ p.key.toList) ∧ Pair.toEntries separator ps = entries)
    ∧ (collect .skip entries = .ok ps ↔
      (∀ p ∈ ps, separator ∉ p.key.toList)
        ∧ Pair.toEntries separator ps = entries.filter (separator ∈ ·.toList))
    ∧ ((∃ qs, collect .reject entries = .ok qs) ↔ ∀ entry ∈ entries, separator ∈ entry.toList)
    ∧ (∃ qs, collect .skip entries = .ok qs)
    ∧ ((∃ qs, collect .reject entries = .ok qs ∧ collect .reject entries' = .ok qs) ↔
      entries = entries' ∧ ∀ entry ∈ entries, separator ∈ entry.toList) := by
  intro collect
  have hexists : (∃ qs, collect .reject entries = .ok qs) ↔
      ∀ entry ∈ entries, separator ∈ entry.toList := by
    simp only [collect, collect_reject_eq_ok_iff, exists_and_left, exists_eq', and_true]
  refine ⟨?_, ?_, ?_, hexists, ?_, ?_⟩
  . intro policy
    apply collect_toEntries_eq_ok_iff
  . apply collect_reject_eq_ok_iff_toEntries_eq
  . apply collect_skip_eq_ok_iff
  . exact ⟨_, collect_skip separator entries⟩
  . rw [← hexists]
    constructor
    . intro ⟨qs, h, h'⟩
      refine ⟨?_, qs, h⟩
      simp only [collect, collect_reject_eq_ok_iff_toEntries_eq] at h h'
      rw [← h.2, ← h'.2]
    . intro ⟨heq, qs, h⟩
      rw [← heq]
      exact ⟨qs, h, h⟩

end EntryFormat

end KeyValue
