import KeyValue.Proofs.Environment.Report
import KeyValue.Proofs.Table.Lookup
import KeyValue.Proofs.Table.Reordering

/-!
This module contains the reordering of the entries that a table is built from. The table keeps
nothing of their order but how the entries of one key follow each other, and no order of malformed
entries makes them acceptable. Variables may be reported in any order if their decoded names are
distinct and hold no `=`.
-/

namespace KeyValue

namespace EntryFormat

def entriesOf (format : EntryFormat) (key : String) (entries : List String) : List String :=
  entries.filter fun entry => (Pair.ofEntry? format.separator entry).any (·.key = key)

theorem ofEntries_entriesOf (format : EntryFormat) (key : String) (entries : List String) :
    Pair.ofEntries format.separator (format.entriesOf key entries) =
      (Pair.ofEntries format.separator entries).filter (·.key = key) := by
  rw [entriesOf, Pair.ofEntries, Pair.ofEntries, List.filterMap_filter, List.filter_filterMap]
  congr 1
  funext entry
  cases Pair.ofEntry? format.separator entry with
  | none => rfl
  | some p => simp [Option.filter]

end EntryFormat

namespace Table

theorem ofPairs_eq_of_filter_key_eq {ps qs : List Pair}
    (h : ∀ key, ps.filter (·.key = key) = qs.filter (·.key = key)) : ofPairs ps = ofPairs qs := by
  apply Std.ExtTreeMap.ext_getElem?
  intro key
  rw [getElem?_ofPairs, getElem?_ofPairs, h]

theorem exists_ofEntries_eq_error_iff {format : EntryFormat} {entries : List String} :
    (∃ e, ofEntries format entries = .error e) ↔
      ¬(format.onMalformed = .skip ∨ ∀ entry ∈ entries, format.separator ∈ entry.toList) := by
  constructor
  . intro ⟨e, he⟩ hok
    have h : ofEntries format entries = .ok _ := ofEntries_eq_ok_iff.mpr ⟨hok, rfl⟩
    rw [he] at h
    cases h
  . intro hnot
    cases h : ofEntries format entries with
    | ok t => exact absurd (ofEntries_eq_ok_iff.mp h).1 hnot
    | error e => exact ⟨e, rfl⟩

theorem ofEntries_reordered {format : EntryFormat} {entries entries' : List String}
    (hperm : entries.Perm entries')
    (horder : ∀ key, format.entriesOf key entries = format.entriesOf key entries') :
    ((format.onMalformed = .skip ∨ ∀ entry ∈ entries, format.separator ∈ entry.toList) ↔
      ∃ t, ofEntries format entries = .ok t ∧ ofEntries format entries' = .ok t)
    ∧ ((∃ e, ofEntries format entries = .error e) ↔
      ∃ e, ofEntries format entries' = .error e) := by
  have hmem : (∀ entry ∈ entries, format.separator ∈ entry.toList) ↔
      ∀ entry ∈ entries', format.separator ∈ entry.toList := by
    simp only [hperm.mem_iff]
  have hpairs : ofPairs (Pair.ofEntries format.separator entries) =
      ofPairs (Pair.ofEntries format.separator entries') := by
    apply ofPairs_eq_of_filter_key_eq
    intro key
    rw [← EntryFormat.ofEntries_entriesOf, horder, EntryFormat.ofEntries_entriesOf]
  constructor
  . simp only [ofEntries_eq_ok_iff, ← hmem, ← hpairs, and_self, exists_and_left, exists_eq',
      and_true]
  . rw [exists_ofEntries_eq_error_iff, exists_ofEntries_eq_error_iff, hmem]

end Table

namespace Environment

open Text.Utf8

theorem table_eq_of_perm {env env' : Environment} (hperm : env.Perm env')
    (hnames : ∀ v ∈ env, 0x3D ∉ v.name) (hkeys : (env.map fun v => decodeLossy v.name).Nodup) :
    ∃ t, env.table = .ok t ∧ env'.table = .ok t := by
  have hnames' : ∀ v ∈ env', 0x3D ∉ v.name := by
    simpa only [hperm.mem_iff] using hnames
  have hpairs : (env.toPairs.map Pair.key).Nodup := by
    rw [toPairs, List.map_map]
    exact hkeys
  refine ⟨_, table_eq_ok hnames, ?_⟩
  rw [table_eq_ok hnames', Except.ok.injEq]
  symm
  apply Table.ofPairs_eq_of_perm_of_nodup (hperm.map Variable.toPair) hpairs

end Environment

namespace Table

open Text.Utf8

theorem order_between_keys_is_forgotten :
    (∀ (format : EntryFormat) (entries entries' : List String), entries.Perm entries' →
      (∀ key, format.entriesOf key entries = format.entriesOf key entries') →
      ((format.onMalformed = .skip ∨ ∀ entry ∈ entries, format.separator ∈ entry.toList) ↔
        ∃ t, ofEntries format entries = .ok t ∧ ofEntries format entries' = .ok t)
      ∧ ((∃ e, ofEntries format entries = .error e) ↔ ∃ e, ofEntries format entries' = .error e))
    ∧ ∀ env env' : Environment, env.Perm env' → (∀ v ∈ env, 0x3D ∉ v.name) →
      (env.map fun v => decodeLossy v.name).Nodup →
      ∃ t, env.table = .ok t ∧ env'.table = .ok t := by
  constructor
  . intro format entries entries' hperm horder
    apply ofEntries_reordered hperm horder
  . intro env env' hperm hnames hkeys
    apply Environment.table_eq_of_perm hperm hnames hkeys

theorem order_between_keys_is_forgotten_lenient :
    let entries := ["A=1", "X", "B=2", "A=3"]
    let entries' := ["B=2", "A=1", "A=3", "X"]
    let env : Environment := [⟨[0x41], [0x31]⟩, ⟨[0xFF], [0x3D]⟩]
    entries.Perm entries'
    ∧ (∀ key,
      EntryFormat.lenient.entriesOf key entries = EntryFormat.lenient.entriesOf key entries')
    ∧ (∃ t, ofEntries .lenient entries = .ok t ∧ ofEntries .lenient entries' = .ok t)
    ∧ (∀ v ∈ env, 0x3D ∉ v.name)
    ∧ (env.map fun v => decodeLossy v.name).Nodup
    ∧ ∃ t, env.table = .ok t ∧ Environment.table env.reverse = .ok t := by
  intro entries entries' env
  have hperm : entries.Perm entries' := by decide
  have horder : ∀ key,
      EntryFormat.lenient.entriesOf key entries = EntryFormat.lenient.entriesOf key entries' := by
    intro key
    have hread : entries.map (Pair.ofEntry? '=') =
        [some ⟨"A", "1"⟩, none, some ⟨"B", "2"⟩, some ⟨"A", "3"⟩] := by decide
    by_cases hA : "A" = key
    . rw [← hA]
      decide
    by_cases hB : "B" = key
    . rw [← hB]
      decide
    . simp_all [entries, entries', EntryFormat.entriesOf, EntryFormat.lenient]
  have hnames : ∀ v ∈ env, 0x3D ∉ v.name := by decide
  have hkeys : (env.map fun v => decodeLossy v.name).Nodup := by decide
  obtain ⟨hreordered, hreported⟩ := order_between_keys_is_forgotten
  obtain ⟨hsame, _⟩ := hreordered .lenient entries entries' hperm horder
  exact ⟨hperm, horder, hsame.mp (.inl rfl), hnames, hkeys,
    hreported env env.reverse env.reverse_perm.symm hnames hkeys⟩

end Table

end KeyValue
