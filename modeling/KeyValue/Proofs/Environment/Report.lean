import KeyValue.Proofs.EntryList.RoundTrip
import KeyValue.Proofs.Environment.Decoding
import KeyValue.Proofs.Table.LastValue

/-!
This module contains what the entries and the table of an environment tell about its variables. They
tell everything that decoding keeps, unless the name of a variable holds a `=`.
-/

namespace KeyValue

namespace Environment

open Text.Utf8

def toPairs (env : Environment) : List Pair :=
  env.map Variable.toPair

theorem entries_eq_toEntries (env : Environment) :
    env.entries = Pair.toEntries '=' env.toPairs := by
  rw [entries, toPairs, Pair.toEntries, List.map_map]
  rfl

theorem not_mem_key_toPairs_iff {env : Environment} :
    (∀ p ∈ env.toPairs, '=' ∉ p.key.toList) ↔ ∀ v ∈ env, 0x3D ∉ v.name := by
  have hname (v : Variable) : '=' ∈ v.toPair.key.toList ↔ 0x3D ∈ v.name := by
    apply mem_toList_decodeLossy_iff (b := 0x3D) (by decide)
  simp only [toPairs, List.forall_mem_map, hname]

theorem collect_eq_ok_toPairs_iff (env : Environment) (policy : MalformedPolicy) :
    (EntryFormat.pipeline { onMalformed := policy } env.entries).collect = .ok env.toPairs ↔
      ∀ v ∈ env, 0x3D ∉ v.name := by
  rw [← not_mem_key_toPairs_iff, entries_eq_toEntries]
  apply EntryFormat.collect_toEntries_eq_ok_iff

theorem table_eq_toTable (env : Environment) :
    env.table = ({ source := .entries env.entryList } : Pipeline).toTable := by
  rw [table, ← EntryFormat.toTable_pipeline]
  rfl

theorem table_eq_ok {env : Environment} (h : ∀ v ∈ env, 0x3D ∉ v.name) :
    env.table = .ok (Table.ofPairs env.toPairs) := by
  rw [← collect_eq_ok_toPairs_iff env .reject] at h
  rw [table, ← EntryFormat.toTable_pipeline, Pipeline.toTable_eq, h]
  rfl

theorem entries_tell_variables_iff (env : Environment) :
    let ps : List Pair := env.map fun v => ⟨decodeLossy v.name, decodeLossy v.value⟩
    let collect (policy : MalformedPolicy) :=
      let format : EntryFormat := { separator := '=', onMalformed := policy }
      ({ source := .entries (env.entryList.withFormat format) } : Pipeline).collect
    (∀ bs cs, decodeLossy bs = String.ofList cs ↔ Decodes bs cs)
    ∧ (∀ policy, collect policy = .ok ps ↔ ∀ v ∈ env, 0x3D ∉ v.name)
    ∧ env.entryList.size = env.length
    ∧ env.table = ({ source := .entries env.entryList } : Pipeline).toTable
    ∧ ((∀ v ∈ env, 0x3D ∉ v.name) → ∃ t, env.table = .ok t
      ∧ (∀ key value, t[key]? = some value ↔ Pair.IsLastIn { key, value } ps)
      ∧ (t.size = env.length ↔ (ps.map Pair.key).Nodup)) := by
  intro ps collect
  refine ⟨?_, ?_, ?_, ?_, ?_⟩
  . intro bs cs
    apply decodeLossy_eq_ofList_iff
  . apply collect_eq_ok_toPairs_iff
  . apply List.length_map
  . apply table_eq_toTable
  . intro h
    have hlength : env.length = ps.length := by
      rw [List.length_map]
    refine ⟨_, table_eq_ok h, ?_, ?_⟩
    . intro key value
      apply Table.getElem?_ofPairs_eq_some_iff
    . rw [hlength]
      apply Table.size_ofPairs_eq_length_iff

theorem entries_tell_variables_merged :
    let env : Environment := [⟨[0xFF], [0x61]⟩, ⟨[0x41], [0x3D]⟩, ⟨[0xFE], [0xC3]⟩]
    (∀ v ∈ env, 0x3D ∉ v.name)
    ∧ ({ source := .entries env.entryList } : Pipeline).collect =
      .ok [⟨"\uFFFD", "a"⟩, ⟨"A", "="⟩, ⟨"\uFFFD", "\uFFFD"⟩]
    ∧ ∃ t, env.table = .ok t ∧ t["A"]? = some "=" ∧ t["\uFFFD"]? = some "\uFFFD"
      ∧ t.size ≠ env.length := by
  intro env
  have hnames : ∀ v ∈ env, 0x3D ∉ v.name := by decide
  obtain ⟨_, hcollect, _, _, htable⟩ := entries_tell_variables_iff env
  obtain ⟨t, ht, hlookup, hsize⟩ := htable hnames
  refine ⟨hnames, (hcollect .reject).mpr hnames, t, ht, ?_, ?_, ?_⟩
  . rw [hlookup]
    refine ⟨[⟨"\uFFFD", "a"⟩], [⟨"\uFFFD", "\uFFFD"⟩], ?_, ?_⟩
    . decide
    . decide
  . rw [hlookup]
    refine ⟨[⟨"\uFFFD", "a"⟩, ⟨"A", "="⟩], [], ?_, ?_⟩
    . decide
    . decide
  -- Two of the names are different bytes but decode alike.
  . rw [Ne, hsize]
    decide

end Environment
end KeyValue
