namespace KeyValue.Text

/--
Consecutive code points, both ends included.
-/
abbrev CodeRange := Nat × Nat

def CodeRange.contains (range : CodeRange) (code : Nat) : Bool :=
  range.1 ≤ code && code ≤ range.2

theorem CodeRange.contains_iff {range : CodeRange} {code : Nat} :
    range.contains code = true ↔ range.1 ≤ code ∧ code ≤ range.2 := by
  simp [contains]

def inRanges (table : List CodeRange) (c : Char) : Bool :=
  table.any (·.contains c.toNat)

theorem inRanges_iff {table : List CodeRange} {c : Char} :
    inRanges table c = true ↔ ∃ range ∈ table, range.1 ≤ c.toNat ∧ c.toNat ≤ range.2 := by
  simp [inRanges, CodeRange.contains_iff]

theorem inRanges_of_covered {table cover : List CodeRange} {c : Char}
    (hcover : table.all (fun range => cover.any fun range' =>
      range'.1 ≤ range.1 && range.2 ≤ range'.2) = true)
    (h : inRanges table c = true) : inRanges cover c = true := by
  rw [inRanges_iff] at *
  obtain ⟨range, hmem, hlo, hhi⟩ := h
  have hrange := List.all_eq_true.mp hcover range hmem
  rw [List.any_eq_true] at hrange
  obtain ⟨range', hmem', hle⟩ := hrange
  rw [Bool.and_eq_true, decide_eq_true_eq, decide_eq_true_eq] at hle
  refine ⟨range', hmem', ?_, ?_⟩
  . omega
  . omega

theorem inRanges_eq_false {table : List CodeRange} {c : Char} {bound : Nat}
    (hc : c.toNat < bound) (ht : table.all (bound ≤ ·.1) = true) : inRanges table c = false := by
  rw [Bool.eq_false_iff, Ne, inRanges_iff]
  rintro ⟨range, hmem, hlo, _⟩
  have := of_decide_eq_true (List.all_eq_true.mp ht range hmem)
  omega

end KeyValue.Text
