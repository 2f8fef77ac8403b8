import KeyValue.Callback

/-!
This module contains `Delivery`, what a traversal hands over when no callback stops it. It describes
a source without any callback, and running a callback over it is the traversal itself.
-/

namespace KeyValue

structure Delivery where
  pairs : List Pair
  rejected : Option MalformedEntry := none
deriving DecidableEq

namespace Delivery

variable {m : Type → Type} [Monad m]

def ending (d : Delivery) : Traversal m ε Unit :=
  match d.rejected with
  | some e => throw (.source e)
  | none => pure ()

def visit (d : Delivery) (f : Callback m ε) : Traversal m ε Unit := do
  d.pairs.forM f.deliver
  d.ending

def filterMap (g : Pair → Option Pair) (d : Delivery) : Delivery :=
  { d with pairs := d.pairs.filterMap g }

def fold (d : Delivery) (step : α → Pair → α) (start : α) : Except MalformedEntry α :=
  match d.rejected with
  | some e => .error e
  | none => .ok (d.pairs.foldl step start)

def collect (d : Delivery) : Except MalformedEntry (List Pair) :=
  match d.rejected with
  | some e => .error e
  | none => .ok d.pairs

theorem visit_nil (rejected : Option MalformedEntry) (f : Callback m ε) [LawfulMonad m] :
    visit { pairs := [], rejected } f = ending { pairs := [], rejected } := by
  simp [visit]

theorem visit_cons (p : Pair) (ps : List Pair) (rejected : Option MalformedEntry)
    (f : Callback m ε) [LawfulMonad m] :
    visit { pairs := p :: ps, rejected } f =
      (do f.deliver p; visit { pairs := ps, rejected } f) := by
  simp [visit, ending]

theorem visit_of_rejected_none [LawfulMonad m] (ps : List Pair) (f : Callback m ε) :
    visit { pairs := ps } f = ps.forM f.deliver := by
  simp [visit, ending]

theorem visit_filterMap [LawfulMonad m] (d : Delivery) (g : Pair → Option Pair)
    (f : Callback m ε) : (d.filterMap g).visit f = d.visit (f.through g) := by
  obtain ⟨ps, rejected⟩ := d
  simp only [filterMap]
  induction ps with
  | nil => simp [visit, ending]
  | cons p ps ih =>
    rw [visit_cons, Callback.deliver_through, List.filterMap_cons]
    cases g p with
    | none => simp [ih]
    | some p' => rw [visit_cons, ih]

theorem run_visit_accumulate (d : Delivery) (step : α → Pair → α) (start : α) :
    (d.visit (Callback.accumulate step)).run start =
      (match d.rejected with
        | some e => .error (.source e)
        | none => .ok (), d.pairs.foldl step start) := by
  obtain ⟨ps, rejected⟩ := d
  induction ps generalizing start with
  | nil => cases rejected <;> rfl
  | cons p ps ih =>
    rw [visit_cons]
    exact ih (step start p)

end Delivery

end KeyValue
