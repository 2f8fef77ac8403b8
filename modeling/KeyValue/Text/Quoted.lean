import KeyValue.Text.GraphemeExtend
import KeyValue.Text.Hex
import KeyValue.Text.Printable

/-!
This module contains the quoted form of text, in which messages show text that may hold anything.
It stands between two marks, and what could be mistaken for a mark, change the layout of the line
or stay invisible is escaped. Reading a quoted text gives back exactly what was written.
-/

namespace KeyValue.Text.Quoted

inductive Mark where
  | double
  | single
deriving DecidableEq

def Mark.char : Mark → Char
  | .double => '"'
  | .single => '\''

theorem Mark.char_ne_backslash (mark : Mark) : mark.char ≠ '\\' := by
  cases mark <;> decide

/--
The letter that stands for `c` behind a backslash, for the few characters that have one. Each form
escapes its own mark only.
-/
def letter? (mark : Mark) (c : Char) : Option Char :=
  if c = '\x00' then some '0'
  else if c = '\t' then some 't'
  else if c = '\n' then some 'n'
  else if c = '\r' then some 'r'
  else if c = '\\' ∨ c = mark.char then some c
  else none

def isHidden (c : Char) : Bool :=
  isAttached c || !isPrintable c

def escape (mark : Mark) (c : Char) : List Char :=
  match letter? mark c with
  | some letter => ['\\', letter]
  | none => if isHidden c then '\\' :: 'u' :: '{' :: Hex.digits c.toNat ++ ['}'] else [c]

def write (mark : Mark) (cs : List Char) : List Char :=
  mark.char :: cs.flatMap (escape mark) ++ [mark.char]

def string (s : String) : String :=
  String.ofList (write .double s.toList)

def character (c : Char) : String :=
  String.ofList (write .single [c])

def ofLetter? (mark : Mark) (letter : Char) : Option Char :=
  if letter = '0' then some '\x00'
  else if letter = 't' then some '\t'
  else if letter = 'n' then some '\n'
  else if letter = 'r' then some '\r'
  else if letter = '\\' ∨ letter = mark.char then some letter
  else none

def readChar? (mark : Mark) (cs : List Char) : Option (Char × List Char) :=
  match cs with
  | '\\' :: 'u' :: '{' :: rest =>
    match rest.dropWhile (· != '}') with
    | [] => none
    | _ :: rest' => some (Char.ofNat (Hex.value (rest.takeWhile (· != '}'))), rest')
  | '\\' :: letter :: rest => (ofLetter? mark letter).map (·, rest)
  | c :: rest => if c = '\\' ∨ c = mark.char then none else some (c, rest)
  | [] => none

theorem length_dropWhile_le (p : Char → Bool) (cs : List Char) :
    (cs.dropWhile p).length ≤ cs.length :=
  (List.dropWhile_sublist p).length_le

theorem readChar?_length {mark : Mark} {cs rest : List Char} {c : Char}
    (h : readChar? mark cs = some (c, rest)) : rest.length < cs.length := by
  unfold readChar? at h
  split at h
  next cs' =>
    have hle := length_dropWhile_le (· != '}') cs'
    split at h
    . cases h
    next hdrop =>
      rw [hdrop] at hle
      cases h
      simp only [List.length_cons] at *
      omega
  next l cs' _ =>
    rw [Option.map_eq_some_iff] at h
    obtain ⟨_, _, h⟩ := h
    cases h
    simp only [List.length_cons]
    omega
  next c' cs' _ _ =>
    split at h
    . cases h
    . cases h
      simp only [List.length_cons]
      omega
  . cases h

theorem ofLetter?_of_letter? {mark : Mark} {c l : Char} (h : letter? mark c = some l) :
    ofLetter? mark l = some c := by
  unfold letter? at h
  repeat' split at h
  all_goals cases h
  all_goals cases mark <;> simp_all [ofLetter?, Mark.char]
  all_goals grind

theorem readChar?_codePoint (mark : Mark) (c : Char) (rest : List Char) :
    readChar? mark ('\\' :: 'u' :: '{' :: (Hex.digits c.toNat ++ '}' :: rest)) =
      some (c, rest) := by
  have hdigits : ∀ d ∈ Hex.digits c.toNat, (d != '}') = true := by
    intro d hd
    simpa using Hex.digits_ne_brace hd
  have htake : (Hex.digits c.toNat ++ '}' :: rest).takeWhile (· != '}') = Hex.digits c.toNat := by
    rw [List.takeWhile_append_of_pos hdigits]
    simp
  have hdrop : (Hex.digits c.toNat ++ '}' :: rest).dropWhile (· != '}') = '}' :: rest := by
    rw [List.dropWhile_append_of_pos hdigits]
    simp
  simp only [readChar?, hdrop, htake, Hex.value_digits, Char.ofNat_toNat]

theorem readChar?_escape (mark : Mark) (c : Char) (rest : List Char) :
    readChar? mark (escape mark c ++ rest) = some (c, rest) := by
  unfold escape
  split
  next l h =>
    have hu : l ≠ 'u' := by
      rintro rfl
      cases mark <;> simp [letter?, Mark.char] at h <;> grind
    simp [readChar?, hu, ofLetter?_of_letter? h]
  next h =>
    split
    . simpa using readChar?_codePoint mark c rest
    . have hb : c ≠ '\\' := by grind [letter?]
      have hm : c ≠ mark.char := by grind [letter?]
      simp [readChar?, hb, hm]

def readBody? (mark : Mark) (cs : List Char) : Option (List Char × List Char) :=
  if cs.head? = some mark.char then
    some ([], cs.tail)
  else
    match _h : readChar? mark cs with
    | none => none
    | some (c, rest) => (readBody? mark rest).map fun (body, rest') => (c :: body, rest')
termination_by cs.length
decreasing_by exact readChar?_length ‹_›

theorem head?_escape_append (mark : Mark) (c : Char) (rest : List Char) :
    (escape mark c ++ rest).head? ≠ some mark.char := by
  have hmark : '\\' ≠ mark.char := mark.char_ne_backslash.symm
  unfold escape
  split
  . simpa using hmark
  next h =>
    split
    . simpa using hmark
    . have hc : c ≠ mark.char := by grind [letter?]
      simpa using hc

theorem readBody?_flatMap_escape (mark : Mark) (cs rest : List Char) :
    readBody? mark (cs.flatMap (escape mark) ++ mark.char :: rest) = some (cs, rest) := by
  induction cs with
  | nil =>
    rw [readBody?]
    simp
  | cons c cs ih =>
    rw [List.flatMap_cons, List.append_assoc, readBody?, if_neg (head?_escape_append mark c _)]
    split
    next h => simp [readChar?_escape] at h
    next h =>
      simp only [readChar?_escape, Option.some.injEq, Prod.mk.injEq] at h
      obtain ⟨rfl, rfl⟩ := h
      simp [ih]

def read? (mark : Mark) (cs : List Char) : Option (List Char × List Char) :=
  match cs with
  | [] => none
  | c :: rest => if c = mark.char then readBody? mark rest else none

theorem read?_write (mark : Mark) (cs rest : List Char) :
    read? mark (write mark cs ++ rest) = some (cs, rest) := by
  simp [write, read?, readBody?_flatMap_escape]

theorem read?_string (s : String) (rest : List Char) :
    read? .double ((string s).toList ++ rest) = some (s.toList, rest) := by
  simp [string, read?_write]

theorem read?_character (c : Char) (rest : List Char) :
    read? .single ((character c).toList ++ rest) = some ([c], rest) := by
  simp [character, read?_write]

end KeyValue.Text.Quoted
