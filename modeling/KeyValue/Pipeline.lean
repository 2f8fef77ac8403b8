import KeyValue.Source
import KeyValue.Stage

namespace KeyValue

/--
The stage next to the source comes first.
-/
structure Pipeline where
  source : Source
  stages : List Stage := []

namespace Pipeline

variable {m : Type → Type} [Monad m]

def push (l : Pipeline) (s : Stage) : Pipeline :=
  { l with stages := l.stages ++ [s] }

def filterMap (l : Pipeline) (g : Pair → Option Pair) : Pipeline :=
  l.push (.filterMap g)

def filter (l : Pipeline) (keep : Pair → Bool) : Pipeline :=
  l.push (.filter keep)

def map (l : Pipeline) (g : Pair → Pair) : Pipeline :=
  l.push (.map g)

def passThrough (l : Pipeline) : Pipeline :=
  l.push .passThrough

def inner? (l : Pipeline) : Option Pipeline :=
  if l.stages.isEmpty then none else some { l with stages := l.stages.dropLast }

/--
Traverses the pipeline and tells `observe` of every call, just before it is made.
-/
def visitObserved (l : Pipeline) (observe : Call → m Unit) (f : Callback m ε) :
    Traversal m ε Unit :=
  l.source.visit (Stage.attachAll observe f 0 l.stages)

def visit (l : Pipeline) (f : Callback m ε) : Traversal m ε Unit :=
  l.visitObserved (fun _ => pure ()) f

def visitLogged (l : Pipeline) (f : Callback m ε) :
    Traversal (StateT (Array Call) m) ε Unit :=
  l.visitObserved (fun call => modify (·.push call)) fun p => .mk (StateT.lift (f p).run)

def delivery (l : Pipeline) : Delivery :=
  l.source.delivery.filterMap (Stage.applyAll l.stages)

theorem visit_eq [LawfulMonad m] (l : Pipeline) (f : Callback m ε) :
    l.visit f = l.delivery.visit f := by
  rw [visit, visitObserved, Stage.attachAll_pure, Source.visit_eq, delivery,
    Delivery.visit_filterMap]

def fold (l : Pipeline) (step : α → Pair → α) (start : α) : Except MalformedEntry α :=
  match (l.visit (Callback.accumulate step)).run start with
  | (.ok (), result) => .ok result
  | (.error e, _) => .error e.malformed

def collect (l : Pipeline) : Except MalformedEntry (List Pair) :=
  Array.toList <$> l.fold Array.push #[]

def toTable (l : Pipeline) : Except MalformedEntry Table :=
  l.fold Table.store ∅

theorem fold_eq (l : Pipeline) (step : α → Pair → α) (start : α) :
    l.fold step start = l.delivery.fold step start := by
  rw [fold, visit_eq, Delivery.run_visit_accumulate, Delivery.fold]
  cases l.delivery.rejected <;> rfl

theorem collect_eq (l : Pipeline) : l.collect = l.delivery.collect := by
  rw [collect, fold_eq, Delivery.fold, Delivery.collect]
  cases l.delivery.rejected with
  | none => simp [Functor.map, Except.map]
  | some e => rfl

theorem toTable_eq (l : Pipeline) : l.toTable = Table.ofPairs <$> l.collect := by
  rw [toTable, fold_eq, collect_eq, Delivery.fold, Delivery.collect]
  cases l.delivery.rejected <;> rfl

end Pipeline

end KeyValue
