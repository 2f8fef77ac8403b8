namespace KeyValue

structure Pair where
  key : String
  value : String
deriving DecidableEq, Inhabited

namespace Pair

def ofEntry? (separator : Char) (entry : String) : Option Pair :=
  match entry.toList.dropWhile (· != separator) with
  | [] => none
  | _ :: value =>
    some ⟨String.ofList (entry.toList.takeWhile (· != separator)), String.ofList value⟩

def toEntry (separator : Char) (p : Pair) : String :=
  p.key.push separator ++ p.value

theorem toList_toEntry (separator : Char) (p : Pair) :
    (p.toEntry separator).toList = p.key.toList ++ separator :: p.value.toList := by
  simp [toEntry]

theorem ofEntry?_toEntry {separator : Char} {p : Pair} (h : separator ∉ p.key.toList) :
    ofEntry? separator (p.toEntry separator) = some p := by
  have hkey : ∀ c ∈ p.key.toList, (c != separator) = true := by
    intro c hc
    simp only [bne_iff_ne, ne_eq]
    rintro rfl
    exact h hc
  unfold ofEntry?
  rw [toList_toEntry, List.dropWhile_append_of_pos hkey, List.takeWhile_append_of_pos hkey]
  simp

theorem ofEntry?_eq_some {separator : Char} {entry : String} {p : Pair}
    (h : ofEntry? separator entry = some p) :
    separator ∉ p.key.toList ∧ p.toEntry separator = entry := by
  unfold ofEntry? at h
  split at h
  . cases h
  next c value hdrop =>
    have hc : c = separator := by
      have := List.head?_dropWhile_not (· != separator) entry.toList
      simpa [hdrop] using this
    have hsplit : entry.toList.takeWhile (· != separator) ++ c :: value = entry.toList := by
      rw [← hdrop, List.takeWhile_append_dropWhile]
    cases h
    constructor
    . intro hmem
      have := List.all_eq_true.mp List.all_takeWhile separator (by simpa using hmem)
      simp at this
    . rw [← String.toList_inj, toList_toEntry]
      simpa [hc] using hsplit

theorem ofEntry?_eq_some_iff {separator : Char} {entry : String} {p : Pair} :
    ofEntry? separator entry = some p ↔
      separator ∉ p.key.toList ∧ p.toEntry separator = entry := by
  constructor
  . exact ofEntry?_eq_some
  . rintro ⟨hkey, rfl⟩
    exact ofEntry?_toEntry hkey

theorem ofEntry?_eq_none_iff {separator : Char} {entry : String} :
    ofEntry? separator entry = none ↔ separator ∉ entry.toList := by
  constructor
  . intro h hmem
    unfold ofEntry? at h
    split at h
    next hdrop =>
      rw [← List.takeWhile_append_dropWhile (p := (· != separator)) (l := entry.toList), hdrop,
        List.append_nil] at hmem
      have := List.all_eq_true.mp List.all_takeWhile separator hmem
      simp at this
    . cases h
  . intro h
    cases hp : ofEntry? separator entry with
    | none => rfl
    | some p =>
      have := (ofEntry?_eq_some hp).2
      rw [← this, toList_toEntry] at h
      simp at h

end Pair

end KeyValue
