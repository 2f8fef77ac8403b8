import KeyValue.Proofs.EntryList.RoundTrip
import KeyValue.Proofs.Table.LastValue

namespace KeyValue

theorem exists_getElem?_drop_cons_iff {α : Type} {x : α} {xs : List α} {P : α → List α → Prop} :
    (∃ i y, (x :: xs)[i]? = some y ∧ P y ((x :: xs).drop (i + 1))) ↔
      P x xs ∨ ∃ i y, xs[i]? = some y ∧ P y (xs.drop (i + 1)) := by
  constructor
  . intro ⟨i, y, hy, h⟩
    cases i with
    | zero =>
      rw [List.getElem?_cons_zero, Option.some.injEq] at hy
      rw [hy]
      exact .inl h
    | succ i => exact .inr ⟨i, y, hy, h⟩
  . intro h
    cases h with
    | inl h => exact ⟨0, x, rfl, h⟩
    | inr h =>
      obtain ⟨i, y, hy, h⟩ := h
      exact ⟨i + 1, y, hy, h⟩

namespace Pair

theorem isLastIn_filterMap_iff {α : Type} {g : α → Option Pair} {xs : List α} {p : Pair} :
    p.IsLastIn (xs.filterMap g) ↔
      ∃ i x, xs[i]? = some x ∧ g x = some p
        ∧ ∀ y ∈ xs.drop (i + 1), ∀ q, g y = some q → q.key ≠ p.key := by
  induction xs with
  | nil => simp [not_isLastIn_nil]
  | cons x xs ih =>
    have hcons := @exists_getElem?_drop_cons_iff _ x xs fun y later =>
      g y = some p ∧ ∀ z ∈ later, ∀ q, g z = some q → q.key ≠ p.key
    have hlater : (∀ q ∈ xs.filterMap g, q.key ≠ p.key) ↔
        ∀ z ∈ xs, ∀ q, g z = some q → q.key ≠ p.key := by
      apply List.forall_mem_filterMap
    rw [hcons, ← ih, List.filterMap_cons]
    cases hx : g x with
    | none => simp
    | some q =>
      simp only [isLastIn_cons_iff, hlater, Option.some.injEq]
      apply Or.comm

theorem isLastIn_iff_getElem? {ps : List Pair} {p : Pair} :
    p.IsLastIn ps ↔ ∃ i, ps[i]? = some p ∧ ∀ q ∈ ps.drop (i + 1), q.key ≠ p.key := by
  have h : p.IsLastIn (ps.filterMap some) ↔ _ := isLastIn_filterMap_iff
  rw [List.filterMap_some] at h
  simp [h]

end Pair

namespace Table

theorem ofEntries_eq_ok_iff {format : EntryFormat} {entries : List String} {t : Table} :
    ofEntries format entries = .ok t ↔
      (format.onMalformed = .skip ∨ ∀ entry ∈ entries, format.separator ∈ entry.toList)
        ∧ ofPairs (Pair.ofEntries format.separator entries) = t := by
  rw [← EntryFormat.toTable_pipeline, Pipeline.toTable_eq_ok_iff]
  simp only [EntryFormat.collect_eq_ok_iff, and_assoc, exists_and_left, exists_eq_left']

theorem ofEntries_append_cons_eq_ok {format : EntryFormat} {front back : List String}
    {entry : String} {t : Table} (h : ofEntries format (front ++ entry :: back) = .ok t)
    (hentry : format.separator ∉ entry.toList) : ofEntries format (front ++ back) = .ok t := by
  rw [ofEntries_eq_ok_iff] at *
  obtain ⟨hok, ht⟩ := h
  constructor
  . cases hok with
    | inl hskip => exact .inl hskip
    | inr hmem => exact absurd (hmem entry (by simp)) hentry
  . rw [← ht, Pair.ofEntries, Pair.ofEntries, List.filterMap_append, List.filterMap_append,
      List.filterMap_cons_none (Pair.ofEntry?_eq_none_iff.mpr hentry)]

theorem lookup_ofEntries {format : EntryFormat} {entries : List String} {t : Table}
    (h : ofEntries format entries = .ok t) :
    let split := Pair.ofEntry? format.separator
    (∀ key value, t[key]? = some value ↔
      ∃ i entry, entries[i]? = some entry ∧ split entry = some { key, value }
        ∧ ∀ later ∈ entries.drop (i + 1), ∀ p, split later = some p → p.key ≠ key)
    ∧ (∀ key, t[key]? = none ↔ ∀ entry ∈ entries, ∀ p, split entry = some p → p.key ≠ key)
    ∧ t.size = ((entries.filterMap split).map Pair.key).dedup.length := by
  intro split
  obtain ⟨_, ht⟩ := ofEntries_eq_ok_iff.mp h
  rw [← ht]
  refine ⟨?_, ?_, ?_⟩
  . intro key value
    rw [getElem?_ofPairs_eq_some_iff]
    apply Pair.isLastIn_filterMap_iff
  . intro key
    rw [getElem?_ofPairs_eq_none_iff]
    apply List.forall_mem_filterMap
  . apply size_ofPairs

theorem lookup_toTable {l : Pipeline} {t : Table} (h : l.toTable = .ok t) :
    ∃ ps, l.collect = .ok ps
      ∧ (∀ key value, t[key]? = some value ↔
        ∃ i, ps[i]? = some { key, value } ∧ ∀ p ∈ ps.drop (i + 1), p.key ≠ key)
      ∧ (∀ key, t[key]? = none ↔ ∀ p ∈ ps, p.key ≠ key)
      ∧ t.size = (ps.map Pair.key).dedup.length := by
  obtain ⟨ps, hps, ht⟩ := Pipeline.toTable_eq_ok_iff.mp h
  rw [← ht]
  refine ⟨ps, hps, ?_, ?_, ?_⟩
  . intro key value
    rw [getElem?_ofPairs_eq_some_iff]
    apply Pair.isLastIn_iff_getElem?
  . intro key
    apply getElem?_ofPairs_eq_none_iff
  . apply size_ofPairs

theorem last_entry_of_key_wins :
    (∀ (format : EntryFormat) (entries : List String) (t : Table),
      ofEntries format entries = .ok t →
      let split := Pair.ofEntry? format.separator
      (∀ key value, t[key]? = some value ↔
        ∃ i entry, entries[i]? = some entry ∧ split entry = some { key, value }
          ∧ ∀ later ∈ entries.drop (i + 1), ∀ p, split later = some p → p.key ≠ key)
      ∧ (∀ key, t[key]? = none ↔ ∀ entry ∈ entries, ∀ p, split entry = some p → p.key ≠ key)
      ∧ (∀ front entry back, entries = front ++ entry :: back → format.separator ∉ entry.toList →
        ofEntries format (front ++ back) = .ok t)
      ∧ t.size = ((entries.filterMap split).map Pair.key).dedup.length)
    ∧ ∀ (l : Pipeline) (t : Table), l.toTable = .ok t → ∃ ps, l.collect = .ok ps
      ∧ (∀ key value, t[key]? = some value ↔
        ∃ i, ps[i]? = some { key, value } ∧ ∀ p ∈ ps.drop (i + 1), p.key ≠ key)
      ∧ (∀ key, t[key]? = none ↔ ∀ p ∈ ps, p.key ≠ key)
      ∧ t.size = (ps.map Pair.key).dedup.length := by
  constructor
  . intro format entries t h split
    obtain ⟨hvalue, hnone, hsize⟩ := lookup_ofEntries h
    refine ⟨hvalue, hnone, ?_, hsize⟩
    intro front entry back hentries hentry
    rw [hentries] at h
    apply ofEntries_append_cons_eq_ok h hentry
  . intro l t h
    apply lookup_toTable h

theorem last_entry_of_key_wins_lenient :
    let entries := ["A=1", "A", "=x", "A=2=3", "B"]
    let l : Pipeline :=
      { source := .entries { entries := ["A=1", "B=2"] }
        stages := [.map fun p => { p with key := "K" }] }
    ∃ t t', ofEntries .lenient entries = .ok t ∧ l.toTable = .ok t'
      ∧ t["A"]? = some "2=3" ∧ t["B"]? = none ∧ t.size = 2
      ∧ ofEntries .lenient ["A=1", "=x", "A=2=3", "B"] = .ok t
      ∧ t'["K"]? = some "2" ∧ t'["A"]? = none ∧ t'.size = 1 := by
  intro entries l
  have hcollect : l.collect = .ok [⟨"K", "1"⟩, ⟨"K", "2"⟩] := by
    rw [Pipeline.collect_eq]
    decide
  have h : ofEntries .lenient entries = .ok _ := ofEntries_eq_ok_iff.mpr ⟨.inl rfl, rfl⟩
  have h' : l.toTable = .ok _ := Pipeline.toTable_eq_ok_iff.mpr ⟨_, hcollect, rfl⟩
  obtain ⟨hvalue, hnone, hskipped, hsize⟩ := last_entry_of_key_wins.1 .lenient entries _ h
  obtain ⟨ps, hps, hvalue', hnone', hsize'⟩ := last_entry_of_key_wins.2 l _ h'
  rw [hcollect, Except.ok.injEq] at hps
  rw [← hps] at hvalue' hnone' hsize'
  refine ⟨_, _, h, h', ?_, ?_, ?_, ?_, ?_, ?_, ?_⟩
  . rw [hvalue]
    exact ⟨3, "A=2=3", by decide⟩
  . rw [hnone]
    decide
  . rw [hsize]
    decide
  . apply hskipped ["A=1"] "A" _ rfl
    decide
  . rw [hvalue']
    exact ⟨1, by decide⟩
  . rw [hnone']
    decide
  . rw [hsize']
    decide

end Table

end KeyValue
