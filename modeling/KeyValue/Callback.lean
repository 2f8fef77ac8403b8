import KeyValue.Pair
import KeyValue.TraversalError

namespace KeyValue

/--
An effect for each pair, which may end the traversal with an error of its own.
-/
abbrev Callback (m : Type → Type) (ε : Type) :=
  Pair → ExceptT ε m Unit

abbrev Traversal (m : Type → Type) (ε : Type) :=
  ExceptT (TraversalError ε) m

namespace Callback

variable {m : Type → Type} [Monad m]

def deliver (f : Callback m ε) (p : Pair) : Traversal m ε Unit :=
  (f p).adapt .callback

def mapError (g : ε → ε') (f : Callback m ε) : Callback m ε' :=
  fun p => (f p).adapt g

def accumulate (step : α → Pair → α) : Callback (StateM α) Empty :=
  fun p => modify (step · p)

def through (g : Pair → Option Pair) (f : Callback m ε) : Callback m ε := fun p =>
  match g p with
  | some p' => f p'
  | none => pure ()

theorem through_through (g h : Pair → Option Pair) (f : Callback m ε) :
    (f.through h).through g = f.through fun p => (g p).bind h := by
  funext p
  cases hg : g p with
  | none => simp [through, hg]
  | some p' => simp [through, hg]

theorem deliver_through [LawfulMonad m] (g : Pair → Option Pair) (f : Callback m ε) (p : Pair) :
    (f.through g).deliver p =
      match g p with
      | some p' => f.deliver p'
      | none => pure () := by
  cases hg : g p with
  | none =>
    simp only [deliver, through, hg]
    apply ExceptT.ext
    rw [ExceptT.run_adapt, ExceptT.run_pure, map_pure, ExceptT.run_pure]
    rfl
  | some p' => simp only [deliver, through, hg]

end Callback

end KeyValue
