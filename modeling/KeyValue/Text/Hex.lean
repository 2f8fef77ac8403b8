namespace KeyValue.Text.Hex

def digits (n : Nat) : List Char :=
  Nat.toDigits 16 n

def digitValue (d : Char) : Nat :=
  if d.isDigit then d.toNat - '0'.toNat else d.toNat - 'a'.toNat + 10

def value (ds : List Char) : Nat :=
  ds.foldl (fun n d => 16 * n + digitValue d) 0

theorem digitValue_digitChar : ∀ n < 16, digitValue (Nat.digitChar n) = n := by
  decide

theorem value_append_singleton (ds : List Char) (d : Char) :
    value (ds ++ [d]) = 16 * value ds + digitValue d := by
  simp [value]

theorem value_digits (n : Nat) : value (digits n) = n := by
  induction n using Nat.strongRecOn with
  | ind n ih =>
    simp only [digits] at *
    by_cases h : n < 16
    . rw [Nat.toDigits_of_lt_base h]
      simp [value, digitValue_digitChar n h]
    . rw [Nat.toDigits_of_base_le (by omega) (by omega), value_append_singleton, ih _ (by omega),
        digitValue_digitChar _ (by omega)]
      omega

theorem exists_digitChar_eq {n : Nat} {d : Char} (h : d ∈ digits n) :
    ∃ k < 16, Nat.digitChar k = d := by
  induction n using Nat.strongRecOn with
  | ind n ih =>
    simp only [digits] at *
    by_cases hn : n < 16
    . rw [Nat.toDigits_of_lt_base hn, List.mem_singleton] at h
      exact ⟨n, hn, h.symm⟩
    . rw [Nat.toDigits_of_base_le (by omega) (by omega), List.mem_append,
        List.mem_singleton] at h
      cases h with
      | inl h => exact ih _ (by omega) h
      | inr h => exact ⟨n % 16, by omega, h.symm⟩

theorem digits_ne_brace {n : Nat} {d : Char} (h : d ∈ digits n) : d ≠ '}' := by
  have hdigit : ∀ k < 16, Nat.digitChar k ≠ '}' := by decide
  obtain ⟨k, hk, rfl⟩ := exists_digitChar_eq h
  exact hdigit k hk

end KeyValue.Text.Hex
