import KeyValue.Delivery

namespace KeyValue

structure FlatPairs where
  strings : List String := []
  even : strings.length % 2 = 0 := by rfl
deriving DecidableEq

namespace FlatPairs

inductive Error where
  | oddLength
deriving DecidableEq

def Error.message : Error → String
  | .oddLength => "PairsVisitor was given an odd number of arguments"

def ofList (strings : List String) : Except Error FlatPairs :=
  if even : strings.length % 2 = 0 then .ok { strings, even } else .error .oddLength

def pairUp : List String → List Pair
  | key :: value :: rest => { key, value } :: pairUp rest
  | _ => []

def flatten (ps : List Pair) : List String :=
  ps.flatMap fun p => [p.key, p.value]

def toPairs (l : FlatPairs) : List Pair :=
  pairUp l.strings

def size (l : FlatPairs) : Nat :=
  l.strings.length / 2

def isEmpty (l : FlatPairs) : Bool :=
  l.strings.isEmpty

def visit [Monad m] (l : FlatPairs) (f : Callback m ε) : Traversal m ε Unit :=
  l.toPairs.forM f.deliver

def delivery (l : FlatPairs) : Delivery :=
  { pairs := l.toPairs }

theorem visit_eq [Monad m] [LawfulMonad m] (l : FlatPairs) (f : Callback m ε) :
    l.visit f = l.delivery.visit f := by
  rw [delivery, Delivery.visit_of_rejected_none, visit]

theorem pairUp_flatten (ps : List Pair) : pairUp (flatten ps) = ps := by
  induction ps with
  | nil => rfl
  | cons p ps ih => simpa [flatten, pairUp] using ih

theorem flatten_pairUp (strings : List String) (h : strings.length % 2 = 0) :
    flatten (pairUp strings) = strings := by
  fun_induction pairUp strings with
  | case1 key value rest ih =>
    have hrest : rest.length % 2 = 0 := by
      simp only [List.length_cons] at h
      omega
    simpa [flatten] using ih hrest
  | case2 strings hne =>
    match strings with
    | [] => rfl
    | [_] => simp at h
    | key :: value :: rest => exact absurd rfl (hne key value rest)

theorem length_pairUp (strings : List String) : (pairUp strings).length = strings.length / 2 := by
  fun_induction pairUp strings with
  | case1 key value rest ih =>
    simp only [List.length_cons, ih]
    omega
  | case2 strings hne =>
    match strings with
    | [] => rfl
    | [_] => simp
    | key :: value :: rest => exact absurd rfl (hne key value rest)

theorem length_toPairs (l : FlatPairs) : l.toPairs.length = l.size :=
  length_pairUp l.strings

end FlatPairs

end KeyValue
