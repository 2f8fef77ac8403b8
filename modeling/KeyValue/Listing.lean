import KeyValue.Delivery
import KeyValue.Table

namespace KeyValue

structure Listing where
  table : Table
  order : List Pair
  perm : order.Perm table.toPairs

namespace Listing

def ofTable (table : Table) : Listing :=
  { table, order := table.toPairs, perm := .refl _ }

def ofPairs (ps : List Pair) : Listing :=
  ofTable (.ofPairs ps)

/--
Listings are equal if their tables are: the order does not count.
-/
instance : BEq Listing where
  beq l r := l.table == r.table

def get? (l : Listing) (key : String) : Option String :=
  l.table[key]?

def size (l : Listing) : Nat :=
  l.table.size

def isEmpty (l : Listing) : Bool :=
  l.table.isEmpty

def visit [Monad m] (l : Listing) (f : Callback m ε) : Traversal m ε Unit :=
  l.order.forM f.deliver

def delivery (l : Listing) : Delivery :=
  { pairs := l.order }

theorem visit_eq [Monad m] [LawfulMonad m] (l : Listing) (f : Callback m ε) :
    l.visit f = l.delivery.visit f := by
  rw [delivery, Delivery.visit_of_rejected_none, visit]

theorem length_order (l : Listing) : l.order.length = l.size := by
  rw [l.perm.length_eq, Table.length_toPairs, size]

end Listing

end KeyValue
