import KeyValue.MalformedEntry
import KeyValue.Pair

namespace KeyValue

inductive MalformedPolicy where
  | reject
  | skip
deriving DecidableEq

structure EntryFormat where
  separator : Char := '='
  onMalformed : MalformedPolicy := .reject
deriving DecidableEq

namespace EntryFormat

def strict : EntryFormat :=
  {}

def lenient : EntryFormat :=
  { onMalformed := .skip }

def skipsMalformed (format : EntryFormat) : Bool :=
  format.onMalformed = .skip

def read (format : EntryFormat) (index : Nat) (entry : String) :
    Except MalformedEntry (Option Pair) :=
  match Pair.ofEntry? format.separator entry with
  | some p => .ok (some p)
  | none =>
    if format.skipsMalformed then
      .ok none
    else
      .error { index, entry, separator := format.separator }

end EntryFormat

end KeyValue
