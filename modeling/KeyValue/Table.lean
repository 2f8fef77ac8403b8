import KeyValue.EntryFormat
import Std.Data.ExtTreeMap

namespace KeyValue

abbrev Table :=
  Std.ExtTreeMap String String

namespace Table

def store (t : Table) (p : Pair) : Table :=
  t.insert p.key p.value

def ofPairs (ps : List Pair) : Table :=
  ps.foldl store ∅

def toPairs (t : Table) : List Pair :=
  t.toList.map fun (key, value) => { key, value }

def ofEntries (format : EntryFormat) (entries : List String) : Except MalformedEntry Table :=
  entries.zipIdx.foldlM (fun t (entry, index) => do
    match ← format.read index entry with
    | some p => return t.store p
    | none => return t) ∅

theorem getElem?_store (t : Table) (p : Pair) (key : String) :
    (t.store p)[key]? = if p.key = key then some p.value else t[key]? := by
  simp [store, Std.ExtTreeMap.getElem?_insert]

theorem mem_toPairs {t : Table} {p : Pair} : p ∈ t.toPairs ↔ t[p.key]? = some p.value := by
  rw [toPairs, List.mem_map, ← Std.ExtTreeMap.mem_toList_iff_getElem?_eq_some]
  constructor
  . rintro ⟨⟨key, value⟩, hmem, rfl⟩
    exact hmem
  . intro hmem
    exact ⟨(p.key, p.value), hmem, rfl⟩

theorem length_toPairs (t : Table) : t.toPairs.length = t.size := by
  simp [toPairs]

end Table

end KeyValue
