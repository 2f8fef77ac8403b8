import KeyValue.Text.Quoted

namespace KeyValue

structure MalformedEntry where
  index : Nat
  entry : String
  separator : Char
deriving DecidableEq

namespace MalformedEntry

def message (e : MalformedEntry) : String :=
  "Malformed pair at index " ++ toString e.index ++ ": " ++ Text.Quoted.string e.entry ++
    " has no " ++ Text.Quoted.character e.separator ++ " separator"

def dropHead? (head cs : List Char) : Option (List Char) :=
  if head.isPrefixOf cs then some (cs.drop head.length) else none

def readNumber? (cs : List Char) : Option (Nat × List Char) :=
  match cs.takeWhile Char.isDigit with
  | [] => none
  | digits => some (Nat.ofDigitChars 10 digits 0, cs.dropWhile Char.isDigit)

def ofMessage? (message : String) : Option MalformedEntry := do
  let cs ← dropHead? "Malformed pair at index ".toList message.toList
  let (index, cs) ← readNumber? cs
  let cs ← dropHead? ": ".toList cs
  let (entry, cs) ← Text.Quoted.read? .double cs
  let cs ← dropHead? " has no ".toList cs
  let (separator, cs) ← Text.Quoted.read? .single cs
  let cs ← dropHead? " separator".toList cs
  match separator, cs with
  | [separator], [] => some { index, entry := String.ofList entry, separator }
  | _, _ => none

theorem dropHead?_append (head cs : List Char) : dropHead? head (head ++ cs) = some cs := by
  simp [dropHead?]

theorem isDigit_of_mem_toString {n : Nat} {d : Char} (h : d ∈ (toString n).toList) :
    d.isDigit = true := by
  rw [Nat.toString_eq_repr, Nat.toList_repr] at h
  exact Nat.isDigit_of_mem_toDigits (by decide) (by decide) h

theorem readNumber?_append (n : Nat) {c : Char} {cs : List Char} (h : c.isDigit = false) :
    readNumber? ((toString n).toList ++ c :: cs) = some (n, c :: cs) := by
  have hdigits : ∀ d ∈ (toString n).toList, d.isDigit = true := by
    intro d hd
    exact isDigit_of_mem_toString hd
  rw [Nat.toString_eq_repr, Nat.toList_repr] at *
  have htake : (Nat.toDigits 10 n ++ c :: cs).takeWhile Char.isDigit = Nat.toDigits 10 n := by
    rw [List.takeWhile_append_of_pos hdigits]
    simp [h]
  have hdrop : (Nat.toDigits 10 n ++ c :: cs).dropWhile Char.isDigit = c :: cs := by
    rw [List.dropWhile_append_of_pos hdigits]
    simp [h]
  unfold readNumber?
  rw [htake, hdrop]
  split
  next h => exact absurd h Nat.toDigits_ne_nil
  . rw [Nat.ofDigitChars_ten_toDigits]

theorem toList_message (e : MalformedEntry) :
    e.message.toList = "Malformed pair at index ".toList ++ ((toString e.index).toList ++
      (": ".toList ++ ((Text.Quoted.string e.entry).toList ++ (" has no ".toList ++
        ((Text.Quoted.character e.separator).toList ++ (" separator".toList ++ [])))))) := by
  unfold message
  rw [String.toList_append, String.toList_append, String.toList_append, String.toList_append,
    String.toList_append, String.toList_append]
  simp only [List.append_assoc, List.append_nil]

theorem ofMessage?_message (e : MalformedEntry) : ofMessage? e.message = some e := by
  have hnumber (cs) : readNumber? ((toString e.index).toList ++ (": ".toList ++ cs)) =
      some (e.index, ": ".toList ++ cs) :=
    readNumber?_append e.index (by decide)
  unfold ofMessage?
  simp only [toList_message, dropHead?_append, hnumber, Text.Quoted.read?_string,
    Text.Quoted.read?_character, Option.bind_eq_bind, Option.bind_some, String.ofList_toList]

end MalformedEntry

end KeyValue
