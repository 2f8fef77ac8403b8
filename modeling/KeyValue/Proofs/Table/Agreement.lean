import KeyValue.Proofs.Pipeline.Outcome

namespace KeyValue

namespace Callback

variable {ε : Type}

def storing : Callback (StateM Table) ε := fun p =>
  modify (·.store p)

end Callback

namespace Delivery

theorem outcome_visit_storing {ε : Type} (d : Delivery) (t : Table) :
    (d.visit (Callback.storing : Callback (StateM Table) ε)).outcome t =
      (result d.rejected, d.pairs.foldl Table.store t) := by
  apply outcome_visit_of_answer_ok
  intro p t
  rfl

end Delivery

namespace Table

theorem foldlM_read (format : EntryFormat) (entries : List String) (start : Nat) (t : Table) :
    (entries.zipIdx start).foldlM (fun t (entry, index) => do
        match ← format.read index entry with
        | some p => return t.store p
        | none => return t) t =
      (format.delivery entries start).fold store t := by
  induction entries generalizing start t with
  | nil =>
    rw [EntryFormat.delivery_nil]
    rfl
  | cons entry entries ih =>
    rw [List.zipIdx_cons, List.foldlM_cons]
    cases h : Pair.ofEntry? format.separator entry with
    | some p =>
      have hread : format.read start entry = .ok (some p) := by simp [EntryFormat.read, h]
      rw [EntryFormat.delivery_cons_of_some h]
      simp only [hread]
      exact ih (start + 1) (t.store p)
    | none =>
      rw [EntryFormat.delivery_cons_of_none h]
      cases hskip : format.skipsMalformed with
      | true =>
        have hread : format.read start entry = .ok none := by simp [EntryFormat.read, h, hskip]
        simp only [hread]
        exact ih (start + 1) t
      | false =>
        have hread : format.read start entry =
            .error { index := start, entry, separator := format.separator } := by
          simp [EntryFormat.read, h, hskip]
        simp only [hread]
        rfl

theorem ofEntries_eq (format : EntryFormat) (entries : List String) :
    ofEntries format entries = (format.delivery entries).fold store ∅ := by
  apply foldlM_read

end Table

namespace Pipeline

theorem tables_agree (format : EntryFormat) (entries : List String) (l : Pipeline) :
    let list : EntryList := { entries }
    let visitor : Pipeline := { source := .entries (list.withFormat format) }
    (match Table.ofEntries format entries with
      | .ok t =>
        visitor.toTable = .ok t
        ∧ (∀ ε : Type,
          (format.visit entries (Callback.storing : Callback (StateM Table) ε)).outcome ∅ =
            (.ok (), t))
        ∧ ∃ ps, visitor.collect = .ok ps ∧ ps.foldl Table.store ∅ = t
      | .error e =>
        visitor.toTable = .error e
        ∧ (∀ ε : Type,
          ((format.visit entries (Callback.storing : Callback (StateM Table) ε)).outcome ∅).1 =
            .error (.source e))
        ∧ visitor.collect = .error e)
    ∧ (∀ t, l.toTable = .ok t ↔ ∃ ps, l.collect = .ok ps ∧ ps.foldl Table.store ∅ = t)
    ∧ (∀ e, l.toTable = .error e ↔ l.collect = .error e) := by
  intro list visitor
  have hvisitor : visitor.delivery = format.delivery entries := by
    apply delivery_of_source
  refine ⟨?_, ?_, ?_⟩
  . have htable : visitor.toTable = Table.ofEntries format entries := by
      rw [toTable, fold_eq, hvisitor, Table.ofEntries_eq]
    have hcollect : visitor.collect = (format.delivery entries).collect := by
      rw [collect_eq, hvisitor]
    rw [htable, hcollect]
    simp only [EntryFormat.visit_eq, Delivery.outcome_visit_storing]
    rw [Table.ofEntries_eq, Delivery.fold, Delivery.collect]
    cases (format.delivery entries).rejected with
    | none => simp [Delivery.result]
    | some e => simp [Delivery.result]
  . intro t
    rw [toTable_eq]
    cases l.collect with
    | ok ps => simp [Functor.map, Except.map, Table.ofPairs]
    | error e => simp [Functor.map, Except.map]
  . intro e
    rw [toTable_eq]
    cases l.collect with
    | ok ps => simp [Functor.map, Except.map]
    | error e => simp [Functor.map, Except.map]

end Pipeline

end KeyValue
