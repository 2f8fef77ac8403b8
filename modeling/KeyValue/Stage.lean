import KeyValue.Callback

/-!
This module contains `Stage`, one layer between a source and a callback. A stage drops, rewrites or
passes on each pair that comes from beneath it. It is given twice: by what it makes of a pair, and
by what it makes of the callback above it.
-/

namespace KeyValue

inductive Stage where
  | filterMap (g : Pair → Option Pair)
  | filter (keep : Pair → Bool)
  | map (g : Pair → Pair)
  /-- Stands for what lies beneath it and calls no function. -/
  | passThrough

/--
What can be observed of a traversal: the calls of the functions of its stages and of the callback.
`depth` counts the stages beneath.
-/
inductive Call where
  | stage (depth : Nat) (pair : Pair)
  | callback (pair : Pair)
deriving DecidableEq

namespace Stage

variable {m : Type → Type} [Monad m]

def apply : Stage → Pair → Option Pair
  | .filterMap g, p => g p
  | .filter keep, p => if keep p then some p else none
  | .map g, p => some (g p)
  | .passThrough, p => some p

def applyAll (stages : List Stage) (p : Pair) : Option Pair :=
  stages.foldlM (fun p stage => stage.apply p) p

/--
The callback for what lies beneath the stage. `onCall` is told of every call of the stage's
function, just before it is made.
-/
def attach (onCall : Pair → m Unit) (next : Callback m ε) : Stage → Callback m ε
  | .filterMap g, p => do
    onCall p
    next.through g p
  | .filter keep, p => do
    onCall p
    if keep p then next p
  | .map g, p => do
    onCall p
    next (g p)
  | .passThrough, p => next p

def attachAll (observe : Call → m Unit) (f : Callback m ε) (depth : Nat) :
    List Stage → Callback m ε
  | [] => fun p => do
    observe (.callback p)
    f p
  | stage :: stages =>
    stage.attach (observe <| .stage depth ·) (attachAll observe f (depth + 1) stages)

theorem applyAll_cons (stage : Stage) (stages : List Stage) (p : Pair) :
    applyAll (stage :: stages) p = (stage.apply p).bind (applyAll stages) := by
  rw [applyAll, List.foldlM_cons]
  rfl

theorem attach_pure [LawfulMonad m] (stage : Stage) (next : Callback m ε) :
    stage.attach (fun _ => pure ()) next = next.through stage.apply := by
  funext p
  cases stage with
  | filterMap g => simp [attach, Callback.through, apply]
  | filter keep => cases h : keep p <;> simp [attach, Callback.through, apply, h]
  | map g => simp [attach, Callback.through, apply]
  | passThrough => rfl

theorem attachAll_pure [LawfulMonad m] (f : Callback m ε) (depth : Nat) (stages : List Stage) :
    attachAll (fun _ => pure ()) f depth stages = f.through (applyAll stages) := by
  induction stages generalizing depth with
  | nil =>
    funext p
    simp [attachAll, applyAll, Callback.through]
  | cons stage stages ih =>
    rw [attachAll, ih, attach_pure, Callback.through_through]
    simp only [← applyAll_cons]

end Stage

end KeyValue
