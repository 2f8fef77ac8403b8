import KeyValue.EntryList
import KeyValue.FlatPairs
import KeyValue.Listing

namespace KeyValue

inductive Source where
  | entries (list : EntryList)
  | listing (list : Listing)
  | pairs (list : FlatPairs)

namespace Source

def visit [Monad m] (s : Source) (f : Callback m ε) : Traversal m ε Unit :=
  match s with
  | .entries list => list.visit f
  | .listing list => list.visit f
  | .pairs list => list.visit f

def delivery : Source → Delivery
  | .entries list => list.delivery
  | .listing list => list.delivery
  | .pairs list => list.delivery

theorem visit_eq [Monad m] [LawfulMonad m] (s : Source) (f : Callback m ε) :
    s.visit f = s.delivery.visit f := by
  cases s with
  | entries list => exact list.format.visit_eq list.entries f
  | listing list => exact list.visit_eq f
  | pairs list => exact list.visit_eq f

def size : Source → Nat
  | .entries list => list.size
  | .listing list => list.size
  | .pairs list => list.size

def isEmpty : Source → Bool
  | .entries list => list.isEmpty
  | .listing list => list.isEmpty
  | .pairs list => list.isEmpty

/--
Sources are compared within their kind only.
-/
def equal? : Source → Source → Option Bool
  | .entries l, .entries r => some (l = r)
  | .listing l, .listing r => some (l == r)
  | .pairs l, .pairs r => some (l = r)
  | _, _ => none

end Source

end KeyValue
