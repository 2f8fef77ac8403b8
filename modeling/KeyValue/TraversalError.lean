import KeyValue.MalformedEntry

namespace KeyValue

inductive TraversalError (ε : Type) where
  | source (cause : MalformedEntry)
  | callback (cause : ε)
deriving DecidableEq

namespace TraversalError

def isCallback : TraversalError ε → Bool
  | .source _ => false
  | .callback _ => true

def callback? : TraversalError ε → Option ε
  | .source _ => none
  | .callback cause => some cause

def mapCallback (g : ε → ε') : TraversalError ε → TraversalError ε'
  | .source cause => .source cause
  | .callback cause => .callback (g cause)

def malformed : TraversalError Empty → MalformedEntry
  | .source cause => cause

def message (render : ε → String) : TraversalError ε → String
  | .source cause => cause.message
  | .callback cause => render cause

theorem isCallback_eq_isSome (e : TraversalError ε) : e.isCallback = e.callback?.isSome := by
  cases e <;> rfl

@[simp]
theorem mapCallback_id (e : TraversalError ε) : e.mapCallback id = e := by
  cases e <;> rfl

theorem mapCallback_mapCallback (g : ε → ε') (h : ε' → ε'') (e : TraversalError ε) :
    (e.mapCallback g).mapCallback h = e.mapCallback (h ∘ g) := by
  cases e <;> rfl

theorem callback?_mapCallback (g : ε → ε') (e : TraversalError ε) :
    (e.mapCallback g).callback? = e.callback?.map g := by
  cases e <;> rfl

theorem source_malformed (e : TraversalError Empty) : .source e.malformed = e := by
  cases e with
  | source cause => rfl
  | callback cause => cases cause

end TraversalError

end KeyValue
