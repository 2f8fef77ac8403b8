import KeyValue.Proofs.Text.Message
import Mathlib.Data.List.DropRight

/-!
This module contains what the message of a malformed entry looks like. Whatever the entry holds, the
message is one line in which everything can be seen, and the first mark that has no backslash of its
own ends the quoted entry.
-/

namespace KeyValue

namespace Text

def lineBreakRanges : List CodeRange :=
  [ (0xa, 0xd), (0x85, 0x85), (0x2028, 0x2029) ]

def bidiControlRanges : List CodeRange :=
  [ (0x61c, 0x61c), (0x200e, 0x200f), (0x202a, 0x202e), (0x2066, 0x2069) ]

def zeroWidthRanges : List CodeRange :=
  [ (0x200b, 0x200d), (0x2060, 0x2060), (0xfeff, 0xfeff) ]

theorem isPrintable_eq_false_of_inRanges {c : Char}
    (h : inRanges (controlRanges ++ formatRanges ++ separatorRanges) c = true) :
    isPrintable c = false := by
  have hany : (inRanges controlRanges c || inRanges formatRanges c || inRanges separatorRanges c) =
      true := by
    rw [inRanges, List.any_append, List.any_append] at h
    exact h
  unfold isPrintable
  rw [hany]
  rfl

namespace Quoted

theorem isHidden_of_inRanges {table : List CodeRange} {c : Char}
    (ht : table ∈ [lineBreakRanges, bidiControlRanges, zeroWidthRanges])
    (h : inRanges table c = true) : isHidden c = true := by
  have hcovered : ∀ table ∈ [lineBreakRanges, bidiControlRanges, zeroWidthRanges],
      table.all (fun range => (controlRanges ++ formatRanges ++ separatorRanges).any fun range' =>
        range'.1 ≤ range.1 && range.2 ≤ range'.2) = true := by decide
  unfold isHidden
  rw [isPrintable_eq_false_of_inRanges (inRanges_of_covered (hcovered table ht) h)]
  simp

theorem Shows.isHidden_of_length {mark : Mark} {c : Char} {text : List Char}
    (h : Shows mark c text) (hlength : 2 < text.length) : isHidden c = true := by
  cases h with
  | codePoint _ hc => simpa [isHidden] using hc
  | _ => simp at hlength

theorem toNat_of_isHidden_eq_false {c : Char} (h : isHidden c = false) :
    32 ≤ c.toNat ∧ c.toNat ≠ 127 := by
  by_cases hc : c.toNat < 128
  . rw [isHidden_of_ascii hc] at h
    simpa using h
  . omega

theorem isHidden_eq_false_of_mem_ascii {cs : List Char} {c : Char}
    (hcs : cs.all (fun c => 32 ≤ c.toNat && c.toNat < 127) = true) (h : c ∈ cs) :
    isHidden c = false := by
  have hc := List.all_eq_true.mp hcs c h
  rw [Bool.and_eq_true, decide_eq_true_eq, decide_eq_true_eq] at hc
  apply isHidden_eq_false_of_ascii hc

theorem mem_of_letter? {mark : Mark} {c l : Char} (h : letter? mark c = some l) :
    l ∈ ['0', 't', 'n', 'r', '\\', mark.char] := by
  unfold letter? at h
  repeat' split at h
  all_goals cases h
  all_goals simp_all

theorem mem_of_mem_codePoint {n : Nat} {d : Char}
    (h : d ∈ '\\' :: 'u' :: '{' :: Hex.digits n ++ ['}']) :
    d ∈ ['\\', 'u', '{', '}'] ++ "0123456789abcdef".toList := by
  have hdigit : ∀ k < 16, Nat.digitChar k ∈ "0123456789abcdef".toList := by decide
  have hd : d ∈ ['\\', 'u', '{', '}'] ∨ d ∈ Hex.digits n := by
    simp only [List.cons_append, List.mem_cons, List.mem_append, List.not_mem_nil, or_false] at *
    grind
  cases hd with
  | inl hd => apply List.mem_append_left _ hd
  | inr hd =>
    obtain ⟨k, hk, rfl⟩ := Hex.exists_digitChar_eq hd
    apply List.mem_append_right _ (hdigit k hk)

theorem isHidden_eq_false_of_mem_escape {mark : Mark} {c d : Char} (h : d ∈ escape mark c) :
    isHidden d = false := by
  unfold escape at h
  split at h
  . next l hl =>
    have hd : d ∈ ['0', 't', 'n', 'r', '\\', mark.char] := by
      rw [List.mem_cons, List.mem_singleton] at h
      cases h with
      | inl h => simp [h]
      | inr h => exact h ▸ mem_of_letter? hl
    apply isHidden_eq_false_of_mem_ascii _ hd
    cases mark <;> decide
  split at h
  . apply isHidden_eq_false_of_mem_ascii _ (mem_of_mem_codePoint h)
    decide
  . next hhidden =>
    rw [List.mem_singleton] at h
    rw [h]
    simpa using hhidden

theorem isHidden_eq_false_of_mem_write {mark : Mark} {cs : List Char} {d : Char}
    (h : d ∈ write mark cs) : isHidden d = false := by
  have hd : d = mark.char ∨ ∃ c, d ∈ escape mark c := by
    simp only [write, List.cons_append, List.mem_cons, List.mem_append, List.mem_flatMap,
      List.not_mem_nil, or_false] at h
    grind
  cases hd with
  | inl hd =>
    have hmark : d ∈ ['\\', mark.char] := by simp [hd]
    apply isHidden_eq_false_of_mem hmark
  | inr hd =>
    obtain ⟨c, hd⟩ := hd
    apply isHidden_eq_false_of_mem_escape hd

def trailingBackslashes (cs : List Char) : Nat :=
  (cs.rtakeWhile (· = '\\')).length

theorem trailingBackslashes_concat (cs : List Char) (c : Char) :
    trailingBackslashes (cs ++ [c]) = if c = '\\' then trailingBackslashes cs + 1 else 0 := by
  unfold trailingBackslashes
  rw [List.rtakeWhile_concat]
  split <;> simp_all

theorem trailingBackslashes_append_cons {c : Char} (hc : c ≠ '\\') (front back : List Char) :
    trailingBackslashes (front ++ c :: back) = trailingBackslashes back := by
  induction back using List.reverseRecOn with
  | nil =>
    rw [trailingBackslashes_concat, if_neg hc]
    rfl
  | append_singleton back d ih =>
    rw [← List.cons_append, ← List.append_assoc, trailingBackslashes_concat,
      trailingBackslashes_concat, ih]

/--
Each mark in `text` stands behind an odd number of backslashes: the last of them is its own.
-/
def MarksEscaped (mark : Mark) (text : List Char) : Prop :=
  ∀ front back, text = front ++ mark.char :: back → trailingBackslashes front % 2 = 1

/--
Text behind an opening mark that the next mark would close.
-/
structure IsOpen (mark : Mark) (text : List Char) : Prop where
  marksEscaped : MarksEscaped mark text
  even : trailingBackslashes text % 2 = 0

theorem marksEscaped_concat_iff {mark : Mark} {text : List Char} {c : Char} :
    MarksEscaped mark (text ++ [c]) ↔
      MarksEscaped mark text ∧ (c = mark.char → trailingBackslashes text % 2 = 1) := by
  constructor
  . intro h
    constructor
    . intro front back htext
      apply h front (back ++ [c])
      rw [htext, List.append_assoc, List.cons_append]
    . intro hc
      apply h text []
      rw [hc]
  . intro ⟨h, hlast⟩ front back htext
    cases back using List.reverseRecOn with
    | nil =>
      rw [List.append_singleton_inj] at htext
      rw [← htext.1]
      apply hlast htext.2
    | append_singleton back d =>
      rw [← List.cons_append, ← List.append_assoc, List.append_singleton_inj] at htext
      apply h front back htext.1

theorem MarksEscaped.append_of_not_mem {mark : Mark} {text more : List Char}
    (h : MarksEscaped mark text) (hmore : mark.char ∉ more) : MarksEscaped mark (text ++ more) := by
  induction more using List.reverseRecOn with
  | nil => simpa using h
  | append_singleton more c ih =>
    rw [List.mem_append, List.mem_singleton, not_or] at hmore
    rw [← List.append_assoc, marksEscaped_concat_iff]
    refine ⟨ih hmore.1, ?_⟩
    intro hc
    exact absurd hc.symm hmore.2

theorem isOpen_nil (mark : Mark) : IsOpen mark [] where
  marksEscaped := by
    intro front back h
    simp at h
  even := rfl

theorem IsOpen.append_concat_of_not_mem {mark : Mark} {text : List Char} (h : IsOpen mark text)
    {more : List Char} {c : Char} (hmore : mark.char ∉ more ++ [c]) (hc : c ≠ '\\') :
    IsOpen mark (text ++ (more ++ [c])) where
  marksEscaped := h.marksEscaped.append_of_not_mem hmore
  even := by
    rw [← List.append_assoc, trailingBackslashes_concat, if_neg hc]

theorem IsOpen.append_backslash_cons {mark : Mark} {text : List Char} (h : IsOpen mark text)
    (l : Char) : IsOpen mark (text ++ ['\\', l]) := by
  have htext : text ++ ['\\', l] = text ++ ['\\'] ++ [l] := by simp
  have heven := h.even
  rw [htext]
  constructor
  . rw [marksEscaped_concat_iff, marksEscaped_concat_iff, trailingBackslashes_concat, if_pos rfl]
    refine ⟨⟨h.marksEscaped, ?_⟩, ?_⟩
    . intro hmark
      exact absurd hmark.symm mark.char_ne_backslash
    . intro _
      omega
  . rw [trailingBackslashes_concat, trailingBackslashes_concat, if_pos rfl]
    split
    . omega
    . rfl

theorem IsOpen.append_escape {mark : Mark} {text : List Char} (h : IsOpen mark text) (c : Char) :
    IsOpen mark (text ++ escape mark c) := by
  -- A mark is only written behind a backslash. What is written without one, or as a code point,
  -- holds no mark and ends in another character than a backslash.
  unfold escape
  split
  . apply h.append_backslash_cons
  next hletter =>
    split
    . apply h.append_concat_of_not_mem
      . intro hmark
        have hmark := mem_of_mem_codePoint hmark
        revert hmark
        cases mark <;> decide
      . decide
    . have hc := (letter?_eq_none_iff.mp hletter).2
      rw [List.mem_cons, List.mem_singleton, not_or] at hc
      rw [← List.nil_append [c]]
      apply h.append_concat_of_not_mem
      . rw [List.nil_append, List.mem_singleton]
        exact Ne.symm hc.2
      . exact hc.1

theorem isOpen_flatMap_escape (mark : Mark) (cs : List Char) :
    IsOpen mark (cs.flatMap (escape mark)) := by
  induction cs using List.reverseRecOn with
  | nil => apply isOpen_nil
  | append_singleton cs c ih =>
    rw [List.flatMap_append, List.flatMap_singleton]
    apply ih.append_escape

theorem IsOpen.eq_of_eq_append {mark : Mark} {text front more rest back : List Char}
    (h : IsOpen mark text) (hfront : IsOpen mark front) (htext : text = front ++ more)
    (hmore : mark.char :: back = more ++ mark.char :: rest) : text = front := by
  cases more with
  | nil => simpa using htext
  | cons c more =>
    -- Here `text` goes on with the mark that would close `front`.
    rw [List.cons_append, List.cons.injEq] at hmore
    rw [← hmore.1] at htext
    have hodd := h.marksEscaped front more htext
    have heven := hfront.even
    omega

theorem IsOpen.isOpen_iff_eq {mark : Mark} {text rest front back : List Char}
    (h : IsOpen mark text) (heq : text ++ mark.char :: rest = front ++ mark.char :: back) :
    IsOpen mark front ↔ front = text := by
  constructor
  . intro hfront
    rw [List.append_eq_append_iff] at heq
    cases heq with
    | inl heq =>
      obtain ⟨more, htext, hmore⟩ := heq
      apply hfront.eq_of_eq_append h htext hmore
    | inr heq =>
      obtain ⟨more, htext, hmore⟩ := heq
      symm
      apply h.eq_of_eq_append hfront htext hmore
  . intro hfront
    rw [hfront]
    exact h

theorem length_escape_pos (mark : Mark) (c : Char) : 0 < (escape mark c).length := by
  unfold escape
  split
  . simp
  . split <;> simp

theorem length_le_length_flatMap_escape (mark : Mark) (cs : List Char) :
    cs.length ≤ (cs.flatMap (escape mark)).length := by
  induction cs with
  | nil => simp
  | cons c cs ih =>
    have hpos := length_escape_pos mark c
    rw [List.flatMap_cons, List.length_append, List.length_cons]
    omega

theorem flatMap_escape_eq_self_iff {mark : Mark} {cs : List Char} :
    cs.flatMap (escape mark) = cs ↔ ∀ c ∈ cs, Shows mark c [c] := by
  simp only [shows_iff]
  induction cs with
  | nil => simp
  | cons c cs ih =>
    rw [List.flatMap_cons, List.forall_mem_cons, ← ih]
    constructor
    . intro h
      -- Nothing gets shorter, so what `c` becomes has no more than one character.
      have hlength := congrArg List.length h
      have hle := length_le_length_flatMap_escape mark cs
      have hpos := length_escape_pos mark c
      rw [List.length_append, List.length_cons] at hlength
      obtain ⟨d, hd⟩ := List.length_eq_one_iff.mp (show (escape mark c).length = 1 by omega)
      rw [hd, List.singleton_append, List.cons.injEq] at h
      rw [hd, h.1]
      exact ⟨rfl, h.2⟩
    . intro h
      rw [h.1, h.2, List.singleton_append]

end Quoted

end Text

namespace MalformedEntry

open Text Text.Quoted

theorem isHidden_eq_false_of_mem_message {e : MalformedEntry} {c : Char}
    (h : c ∈ e.message.toList) : isHidden c = false := by
  rw [toList_message] at h
  simp only [List.mem_append, List.not_mem_nil, or_false] at h
  rcases h with h | h | h | h | h | h | h
  . apply isHidden_eq_false_of_mem_ascii _ h
    decide
  . have hdigit : 48 ≤ c.toNat ∧ c.toNat ≤ 57 :=
      Char.isDigit_iff_toNat.mp (isDigit_of_mem_toString h)
    apply isHidden_eq_false_of_ascii
    omega
  . apply isHidden_eq_false_of_mem_ascii _ h
    decide
  . rw [string, String.toList_ofList] at h
    apply isHidden_eq_false_of_mem_write h
  . apply isHidden_eq_false_of_mem_ascii _ h
    decide
  . rw [character, String.toList_ofList] at h
    apply isHidden_eq_false_of_mem_write h
  . apply isHidden_eq_false_of_mem_ascii _ h
    decide

theorem message_is_printable_line (e : MalformedEntry) :
    let opening := "Malformed pair at index " ++ toString e.index ++ ": "
    let closing := " has no " ++ character e.separator ++ " separator"
    let body := e.entry.toList.flatMap (escape .double)
    let backslashesBefore (front : List Char) :=
      trailingBackslashes (opening.toList ++ '"' :: front)
    (∀ c ∈ e.message.toList, 0x20 ≤ c.toNat ∧ c.toNat ≠ 0x7F
      ∧ (∀ mark, ¬Shows mark c ('\\' :: 'u' :: '{' :: Nat.toDigits 16 c.toNat ++ ['}']))
      ∧ ∀ table ∈ [lineBreakRanges, bidiControlRanges, zeroWidthRanges], inRanges table c = false)
    ∧ e.message.toList = opening.toList ++ '"' :: (body ++ '"' :: closing.toList)
    ∧ '"' ∉ opening.toList
    ∧ (∀ front back, body = front ++ '"' :: back → backslashesBefore front % 2 = 1)
    ∧ (∀ front back, body ++ '"' :: closing.toList = front ++ '"' :: back →
      (((∀ front' back', front = front' ++ '"' :: back' → backslashesBefore front' % 2 = 1)
        ∧ backslashesBefore front % 2 = 0) ↔ front = body))
    ∧ ((∀ c ∈ e.entry.toList, Shows .double c [c]) ↔
      e.message = opening ++ "\"" ++ e.entry ++ "\"" ++ closing) := by
  intro opening closing body backslashesBefore
  have hopen : IsOpen .double body := isOpen_flatMap_escape .double e.entry.toList
  have hbefore (front) : backslashesBefore front = trailingBackslashes front := by
    apply trailingBackslashes_append_cons
    decide
  have hmessage : e.message.toList = opening.toList ++ '"' :: (body ++ '"' :: closing.toList) := by
    rw [toList_message]
    simp [string, write, Mark.char, opening, closing, body]
  simp only [hbefore]
  refine ⟨?_, hmessage, ?_, hopen.marksEscaped, ?_, ?_⟩
  . intro c hc
    have hhidden := isHidden_eq_false_of_mem_message hc
    have hascii := toNat_of_isHidden_eq_false hhidden
    refine ⟨hascii.1, hascii.2, ?_, ?_⟩
    . intro mark hshows
      rw [hshows.isHidden_of_length (by simp)] at hhidden
      cases hhidden
    . intro table htable
      rw [Bool.eq_false_iff]
      intro hc
      rw [isHidden_of_inRanges htable hc] at hhidden
      cases hhidden
  . simp only [opening, String.toList_append, List.mem_append, not_or]
    refine ⟨⟨by decide, ?_⟩, by decide⟩
    intro hmem
    exact absurd (isDigit_of_mem_toString hmem) (by decide)
  . intro front back heq
    rw [← hopen.isOpen_iff_eq heq]
    constructor
    . intro h
      exact ⟨h.1, h.2⟩
    . intro h
      exact ⟨h.marksEscaped, h.even⟩
  . have hverbatim : (opening ++ "\"" ++ e.entry ++ "\"" ++ closing).toList =
        opening.toList ++ '"' :: (e.entry.toList ++ '"' :: closing.toList) := by
      simp
    rw [← flatMap_escape_eq_self_iff, ← String.toList_inj, hmessage, hverbatim]
    simp [body]

end MalformedEntry

end KeyValue
