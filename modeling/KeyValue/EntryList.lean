import KeyValue.Delivery
import KeyValue.EntryFormat

namespace KeyValue

namespace EntryFormat

variable {m : Type → Type} [Monad m]

def visitEntry (format : EntryFormat) (f : Callback m ε) (entry : String × Nat) :
    Traversal m ε Unit :=
  match format.read entry.2 entry.1 with
  | .ok (some p) => f.deliver p
  | .ok none => pure ()
  | .error e => throw (.source e)

/--
Reads the entries one after the other and hands each pair to the callback before the next entry is
looked at.
-/
def visit (format : EntryFormat) (entries : List String) (f : Callback m ε) :
    Traversal m ε Unit :=
  entries.zipIdx.forM (format.visitEntry f)

def accepts (format : EntryFormat) (entry : String) : Bool :=
  entry.toList.contains format.separator

def firstMalformed? (format : EntryFormat) (entries : List String) (start : Nat := 0) :
    Option MalformedEntry := do
  let (entry, index) ← (entries.zipIdx start).find? fun (entry, _) => !format.accepts entry
  return { index, entry, separator := format.separator }

def delivery (format : EntryFormat) (entries : List String) (start : Nat := 0) : Delivery :=
  match format.onMalformed with
  | .skip => { pairs := entries.filterMap (Pair.ofEntry? format.separator) }
  | .reject =>
    { pairs := (entries.takeWhile format.accepts).filterMap (Pair.ofEntry? format.separator)
      rejected := format.firstMalformed? entries start }

theorem isSome_ofEntry? (format : EntryFormat) (entry : String) :
    (Pair.ofEntry? format.separator entry).isSome = format.accepts entry := by
  rw [accepts, Bool.eq_iff_iff, List.contains_iff_mem, Option.isSome_iff_ne_none, Ne,
    Pair.ofEntry?_eq_none_iff, Decidable.not_not]

theorem delivery_nil (format : EntryFormat) (start : Nat) :
    format.delivery [] start = { pairs := [] } := by
  unfold delivery
  split <;> rfl

theorem delivery_cons_of_some {format : EntryFormat} {start : Nat} {entry : String}
    {entries : List String} {p : Pair} (h : Pair.ofEntry? format.separator entry = some p) :
    format.delivery (entry :: entries) start =
      { pairs := p :: (format.delivery entries (start + 1)).pairs
        rejected := (format.delivery entries (start + 1)).rejected } := by
  have haccepts : format.accepts entry = true := by
    rw [← isSome_ofEntry?, h]
    rfl
  unfold delivery
  split
  . simp [h]
  . simp [h, haccepts, firstMalformed?]

theorem delivery_cons_of_none {format : EntryFormat} {start : Nat} {entry : String}
    {entries : List String} (h : Pair.ofEntry? format.separator entry = none) :
    format.delivery (entry :: entries) start =
      if format.skipsMalformed then
        format.delivery entries (start + 1)
      else
        { pairs := []
          rejected := some { index := start, entry, separator := format.separator } } := by
  have haccepts : format.accepts entry = false := by
    rw [← isSome_ofEntry?, h]
    rfl
  unfold delivery skipsMalformed
  cases format.onMalformed with
  | skip => simp [h]
  | reject => simp [haccepts, firstMalformed?]

theorem forM_visitEntry [LawfulMonad m] (format : EntryFormat) (entries : List String)
    (start : Nat) (f : Callback m ε) :
    (entries.zipIdx start).forM (format.visitEntry f) =
      (format.delivery entries start).visit f := by
  induction entries generalizing start with
  | nil => simp [delivery_nil, Delivery.visit, Delivery.ending]
  | cons entry entries ih =>
    rw [List.zipIdx_cons, List.forM_eq_forM, List.forM_cons, ← List.forM_eq_forM, ih]
    cases h : Pair.ofEntry? format.separator entry with
    | some p => simp [delivery_cons_of_some h, Delivery.visit_cons, visitEntry, read, h]
    | none =>
      rw [delivery_cons_of_none h]
      cases hskip : format.skipsMalformed with
      | true => simp [visitEntry, read, h, hskip]
      | false => simp [visitEntry, read, h, hskip, Delivery.visit_nil, Delivery.ending]

theorem visit_eq [LawfulMonad m] (format : EntryFormat) (entries : List String)
    (f : Callback m ε) : format.visit entries f = (format.delivery entries).visit f :=
  format.forM_visitEntry entries 0 f

end EntryFormat

structure EntryList where
  entries : List String := []
  format : EntryFormat := {}
deriving DecidableEq

namespace EntryList

variable {m : Type → Type} [Monad m]

def withFormat (l : EntryList) (format : EntryFormat) : EntryList :=
  { l with format }

def withSeparator (l : EntryList) (separator : Char) : EntryList :=
  { l with format.separator := separator }

def skipMalformed (l : EntryList) : EntryList :=
  { l with format.onMalformed := .skip }

def size (l : EntryList) : Nat :=
  l.entries.length

def isEmpty (l : EntryList) : Bool :=
  l.entries.isEmpty

def visit (l : EntryList) (f : Callback m ε) : Traversal m ε Unit :=
  l.format.visit l.entries f

def delivery (l : EntryList) : Delivery :=
  l.format.delivery l.entries

end EntryList

end KeyValue
