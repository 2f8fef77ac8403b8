import KeyValue.Proofs.Callback.MappedErrors
import KeyValue.Proofs.EntryList.RoundTrip

/-!
This module contains the traversal of two lists, one behind the other. The second is traversed as if
it stood alone, but only after all of the first, and with the positions of its entries moved on.
-/

namespace KeyValue

def MalformedEntry.shift (n : Nat) (e : MalformedEntry) : MalformedEntry :=
  { e with index := n + e.index }

def TraversalError.shift (n : Nat) : TraversalError ε → TraversalError ε
  | .source e => .source (e.shift n)
  | .callback e => .callback e

namespace Delivery

variable {m : Type → Type} [Monad m] {σ ε α : Type}

def shift (n : Nat) (d : Delivery) : Delivery :=
  { d with rejected := d.rejected.map (·.shift n) }

def andThen (d d' : Delivery) : Delivery :=
  match d.rejected with
  | some _ => d
  | none => { d' with pairs := d.pairs ++ d'.pairs }

theorem andThen_cons (p : Pair) (ps : List Pair) (rejected : Option MalformedEntry)
    (d : Delivery) :
    andThen { pairs := p :: ps, rejected } d =
      { pairs := p :: (andThen { pairs := ps, rejected } d).pairs
        rejected := (andThen { pairs := ps, rejected } d).rejected } := by
  cases rejected with
  | none => rfl
  | some e => rfl

theorem filterMap_andThen (g : Pair → Option Pair) (d d' : Delivery) :
    (d.andThen d').filterMap g = (d.filterMap g).andThen (d'.filterMap g) := by
  obtain ⟨ps, rejected⟩ := d
  cases rejected with
  | none => simp [filterMap, andThen]
  | some e => rfl

theorem visit_shift [LawfulMonad m] (n : Nat) (d : Delivery) (f : Callback m ε) :
    (d.shift n).visit f = (d.visit f).adapt (.shift n) := by
  obtain ⟨ps, rejected⟩ := d
  unfold shift
  induction ps with
  | nil =>
    rw [visit_nil, visit_nil]
    cases rejected with
    | none =>
      symm
      apply ExceptT.adapt_pure
    | some e =>
      symm
      apply ExceptT.adapt_throw
  | cons p ps ih =>
    rw [visit_cons, visit_cons, ExceptT.adapt_bind, ih, Callback.deliver, ExceptT.adapt_adapt]
    rfl

theorem visit_andThen [LawfulMonad m] (d d' : Delivery) (f : Callback m ε) :
    (d.andThen d').visit f = (do d.visit f; d'.visit f) := by
  obtain ⟨ps, rejected⟩ := d
  cases rejected with
  | none =>
    simp only [andThen]
    induction ps with
    | nil => simp [visit, ending]
    | cons p ps ih => rw [List.cons_append, visit_cons, visit_cons, ih, bind_assoc]
  | some e => simp [andThen, visit, ending]

theorem outcome_visit_shift (n : Nat) (d : Delivery) (f : Callback (StateM σ) ε) (s : σ) :
    ((d.shift n).visit f).outcome s =
      (((d.visit f).outcome s).1.mapError (.shift n), ((d.visit f).outcome s).2) := by
  rw [visit_shift]
  rfl

theorem outcome_visit_andThen (d d' : Delivery) (f : Callback (StateM σ) ε) (s : σ) :
    ((d.andThen d').visit f).outcome s =
      match (d.visit f).outcome s with
      | (.ok (), t) => (d'.visit f).outcome t
      | failed => failed := by
  rw [visit_andThen]
  unfold Traversal.outcome
  rw [ExceptT.run_bind, StateT.run_bind]
  rcases (d.visit f).run.run s with ⟨_ | _, t⟩
  . rfl
  . rfl

theorem fold_shift (n : Nat) (d : Delivery) (step : α → Pair → α) (start : α) :
    (d.shift n).fold step start = (d.fold step start).mapError (·.shift n) := by
  unfold fold shift
  cases d.rejected with
  | none => rfl
  | some e => rfl

theorem fold_andThen (d d' : Delivery) (step : α → Pair → α) (start : α) :
    (d.andThen d').fold step start = (do d'.fold step (← d.fold step start)) := by
  obtain ⟨ps, rejected⟩ := d
  cases rejected with
  | none =>
    simp only [fold, andThen, List.foldl_append]
    rfl
  | some e => rfl

end Delivery

namespace Table

theorem union_empty (t : Table) : t ∪ ∅ = t := by
  apply Std.ExtTreeMap.ext_getElem?
  intro key
  rw [Std.ExtTreeMap.getElem?_union, Std.ExtTreeMap.getElem?_empty, Option.none_or]

theorem foldl_store_union (t t' : Table) (ps : List Pair) :
    ps.foldl store (t ∪ t') = t ∪ ps.foldl store t' := by
  induction ps generalizing t' with
  | nil => rfl
  | cons p ps ih =>
    have hstore : (t ∪ t').store p = t ∪ t'.store p :=
      Std.ExtTreeMap.union_insert_right_eq_insert_union (p := ⟨p.key, p.value⟩).symm
    rw [List.foldl_cons, List.foldl_cons, hstore, ih]

theorem fold_store_andThen (d d' : Delivery) :
    (d.andThen d').fold store ∅ = (do
      let t ← d.fold store ∅
      let t' ← d'.fold store ∅
      return t ∪ t') := by
  rw [Delivery.fold_andThen]
  apply bind_congr
  intro t
  -- The pairs of `d'` may be stored apart from `t` and laid over it.
  have hstore := foldl_store_union t ∅ d'.pairs
  rw [union_empty] at hstore
  rw [Delivery.fold, Delivery.fold, hstore]
  cases d'.rejected with
  | none => rfl
  | some e => rfl

end Table

namespace EntryFormat

theorem delivery_add (format : EntryFormat) (entries : List String) (n start : Nat) :
    format.delivery entries (n + start) = (format.delivery entries start).shift n := by
  induction entries generalizing start with
  | nil =>
    rw [delivery_nil, delivery_nil]
    rfl
  | cons entry entries ih =>
    cases h : Pair.ofEntry? format.separator entry with
    | some p =>
      rw [delivery_cons_of_some h, delivery_cons_of_some h, Nat.add_assoc, ih]
      rfl
    | none =>
      rw [delivery_cons_of_none h, delivery_cons_of_none h, Nat.add_assoc, ih]
      cases format.skipsMalformed with
      | true => rfl
      | false => rfl

theorem delivery_append_add (format : EntryFormat) (xs ys : List String) (start : Nat) :
    format.delivery (xs ++ ys) start =
      (format.delivery xs start).andThen (format.delivery ys (xs.length + start)) := by
  induction xs generalizing start with
  | nil =>
    rw [delivery_nil, List.length_nil, Nat.zero_add]
    rfl
  | cons entry xs ih =>
    have hlength : (entry :: xs).length + start = xs.length + (start + 1) := by
      rw [List.length_cons]
      omega
    rw [List.cons_append, hlength]
    cases h : Pair.ofEntry? format.separator entry with
    | some p => rw [delivery_cons_of_some h, delivery_cons_of_some h, ih, Delivery.andThen_cons]
    | none =>
      rw [delivery_cons_of_none h, delivery_cons_of_none h, ih]
      cases format.skipsMalformed with
      | true => rfl
      | false => rfl

theorem delivery_append (format : EntryFormat) (xs ys : List String) :
    format.delivery (xs ++ ys) =
      (format.delivery xs).andThen ((format.delivery ys).shift xs.length) := by
  rw [delivery_append_add, delivery_add]

theorem visit_pipeline {m : Type → Type} [Monad m] [LawfulMonad m] {ε : Type}
    (format : EntryFormat) (entries : List String) (f : Callback m ε) :
    (format.pipeline entries).visit f = format.visit entries f := by
  rw [pipeline, Pipeline.visit_of_source, visit_eq]
  rfl

end EntryFormat

namespace FlatPairs

theorem pairUp_flatten_append (ps : List Pair) (strings : List String) :
    pairUp (flatten ps ++ strings) = ps ++ pairUp strings := by
  induction ps with
  | nil => rfl
  | cons p ps ih => simpa [flatten, pairUp] using ih

theorem exists_ofList_append (l l' : FlatPairs) :
    ∃ flat, ofList (l.strings ++ l'.strings) = .ok flat
      ∧ flat.delivery = l.delivery.andThen l'.delivery := by
  have heven : (l.strings ++ l'.strings).length % 2 = 0 := by
    have := l.even
    have := l'.even
    rw [List.length_append]
    omega
  refine ⟨⟨_, heven⟩, ?_, ?_⟩
  . rw [ofList, dif_pos heven]
  . have hpairs := pairUp_flatten_append l.toPairs l'.strings
    rw [toPairs, flatten_pairUp l.strings l.even] at hpairs
    rw [delivery, toPairs, hpairs]
    rfl

end FlatPairs

namespace Source

theorem concatenation_traversed_in_turn {σ ε : Type} (format : EntryFormat) (xs ys : List String)
    (l l' : FlatPairs) (stages : List Stage) (f : Callback (StateM σ) ε) (s : σ)
    (seen : List Pair) :
    let entries (xs : List String) : Pipeline := format.pipeline xs stages
    let pairs (l : FlatPairs) : Pipeline := { source := .pairs l, stages }
    let run (l : Pipeline) (s : σ) (seen : List Pair) := (l.visit f.recorded).outcome (s, seen)
    (∀ xs, (format.pipeline xs).visit f = format.visit xs f)
    ∧ (∀ observe : Call → StateM σ Unit, (entries (xs ++ ys)).visitObserved observe f = (do
      (entries xs).visitObserved observe f
      ((entries ys).visitObserved observe f).adapt (.shift xs.length)))
    ∧ run (entries (xs ++ ys)) s seen =
      (match run (entries xs) s seen with
      | (.ok (), t, seen') =>
        let (result, t', seen'') := run (entries ys) t seen'
        (result.mapError (.shift xs.length), t', seen'')
      | failed => failed)
    ∧ (∀ (t t' : Table) (key : String), (t ∪ t')[key]? = t'[key]?.or t[key]?)
    ∧ Table.ofEntries format (xs ++ ys) = (do
      let t ← Table.ofEntries format xs
      let t' ← (Table.ofEntries format ys).mapError (·.shift xs.length)
      return t ∪ t')
    ∧ (entries (xs ++ ys)).toTable = (do
      let t ← (entries xs).toTable
      let t' ← (entries ys).toTable.mapError (·.shift xs.length)
      return t ∪ t')
    ∧ ∃ flat, FlatPairs.ofList (l.strings ++ l'.strings) = .ok flat
      ∧ run (pairs flat) s seen =
        (match run (pairs l) s seen with
        | (.ok (), t, seen') => run (pairs l') t seen'
        | failed => failed)
      ∧ (pairs flat).toTable = (do
        let t ← (pairs l).toTable
        let t' ← (pairs l').toTable
        return t ∪ t') := by
  intro entries pairs run
  have hdelivery : (entries (xs ++ ys)).delivery =
      (entries xs).delivery.andThen ((entries ys).delivery.shift xs.length) := by
    simp only [entries, EntryFormat.delivery_pipeline]
    rw [EntryFormat.delivery_append, Delivery.filterMap_andThen]
    rfl
  obtain ⟨flat, hflat, hpairs⟩ := FlatPairs.exists_ofList_append l l'
  have hdelivery' : (pairs flat).delivery = (pairs l).delivery.andThen (pairs l').delivery := by
    simp only [pairs, Pipeline.delivery, delivery]
    rw [hpairs, Delivery.filterMap_andThen]
  refine ⟨?_, ?_, ?_, ?_, ?_, ?_, flat, hflat, ?_, ?_⟩
  . intro xs
    apply EntryFormat.visit_pipeline
  . intro observe
    have hvisit (zs : List String) : (entries zs).visitObserved observe f =
        (format.delivery zs).visit (Stage.attachAll observe f 0 stages) := by
      apply EntryFormat.visit_eq
    rw [hvisit, hvisit, hvisit, EntryFormat.delivery_append, Delivery.visit_andThen,
      Delivery.visit_shift]
  . simp only [run, Pipeline.visit_eq]
    rw [hdelivery, Delivery.outcome_visit_andThen]
    simp only [Delivery.outcome_visit_shift]
    rcases ((entries xs).delivery.visit f.recorded).outcome (s, seen) with ⟨_ | _, t⟩
    . rfl
    . rfl
  . intro t t' key
    apply Std.ExtTreeMap.getElem?_union
  . rw [Table.ofEntries_eq, Table.ofEntries_eq, Table.ofEntries_eq, EntryFormat.delivery_append,
      Table.fold_store_andThen, Delivery.fold_shift]
  . simp only [Pipeline.toTable, Pipeline.fold_eq]
    rw [hdelivery, Table.fold_store_andThen, Delivery.fold_shift]
  . simp only [run, Pipeline.visit_eq]
    rw [hdelivery', Delivery.outcome_visit_andThen]
    rcases ((pairs l).delivery.visit f.recorded).outcome (s, seen) with ⟨_ | _, t⟩
    . rfl
    . rfl
  . simp only [Pipeline.toTable, Pipeline.fold_eq]
    rw [hdelivery', Table.fold_store_andThen]

end Source

end KeyValue
