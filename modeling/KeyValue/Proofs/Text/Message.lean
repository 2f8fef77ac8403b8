import KeyValue.TraversalError
import Mathlib.Data.List.Forall2

namespace KeyValue

namespace Text.Quoted

inductive Shows (mark : Mark) : Char → List Char → Prop where
  | nul : Shows mark '\x00' ['\\', '0']
  | tab : Shows mark '\t' ['\\', 't']
  | newline : Shows mark '\n' ['\\', 'n']
  | carriageReturn : Shows mark '\r' ['\\', 'r']
  | backslash : Shows mark '\\' ['\\', '\\']
  | mark : Shows mark mark.char ['\\', mark.char]
  | codePoint {c : Char} (hletter : c ∉ ['\x00', '\t', '\n', '\r'])
      (hc : isAttached c = true ∨ isPrintable c = false) :
      Shows mark c ('\\' :: 'u' :: '{' :: Nat.toDigits 16 c.toNat ++ ['}'])
  | plain {c : Char} (hletter : c ∉ ['\\', mark.char])
      (hc : isAttached c = false ∧ isPrintable c = true) : Shows mark c [c]

theorem isHidden_of_ascii {c : Char} (h : c.toNat < 128) :
    isHidden c = !(32 ≤ c.toNat && c.toNat != 127) := by
  rw [isHidden, isAttached_of_ascii h, isPrintable_of_ascii h, Bool.false_or]

theorem isHidden_eq_false_of_ascii {c : Char} (h : 32 ≤ c.toNat ∧ c.toNat < 127) :
    isHidden c = false := by
  rw [isHidden_of_ascii (by omega)]
  simp
  omega

theorem isHidden_of_mem {c : Char} (h : c ∈ ['\x00', '\t', '\n', '\r']) : isHidden c = true := by
  have hc : c.toNat < 32 := by
    simp only [List.mem_cons, List.not_mem_nil, or_false] at h
    rcases h with rfl | rfl | rfl | rfl <;> decide
  rw [isHidden_of_ascii (by omega)]
  simp [hc]

theorem isHidden_eq_false_of_mem {mark : Mark} {c : Char} (h : c ∈ ['\\', mark.char]) :
    isHidden c = false := by
  have hc : 32 ≤ c.toNat ∧ c.toNat < 127 := by
    simp only [List.mem_cons, List.not_mem_nil, or_false] at h
    rcases h with rfl | rfl
    . decide
    . cases mark <;> decide
  apply isHidden_eq_false_of_ascii hc

theorem letter?_eq_none_iff {mark : Mark} {c : Char} :
    letter? mark c = none ↔ c ∉ ['\x00', '\t', '\n', '\r'] ∧ c ∉ ['\\', mark.char] := by
  simp only [letter?, List.mem_cons, List.not_mem_nil, or_false]
  grind

theorem shows_of_letter? {mark : Mark} {c l : Char} (h : letter? mark c = some l) :
    Shows mark c ['\\', l] := by
  unfold letter? at h
  repeat' split at h
  all_goals cases h
  . next hc =>
    rw [hc]
    exact .nul
  . next hc =>
    rw [hc]
    exact .tab
  . next hc =>
    rw [hc]
    exact .newline
  . next hc =>
    rw [hc]
    exact .carriageReturn
  . next hc =>
    cases hc with
    | inl hc =>
      rw [hc]
      exact .backslash
    | inr hc =>
      rw [hc]
      exact .mark

theorem shows_iff {mark : Mark} {c : Char} {text : List Char} :
    Shows mark c text ↔ escape mark c = text := by
  constructor
  . intro h
    unfold escape
    cases h with
    | nul => rfl
    | tab => rfl
    | newline => rfl
    | carriageReturn => rfl
    | backslash => rfl
    | mark => cases mark <;> rfl
    | codePoint hletter hc =>
      have hhidden : isHidden c = true := by simpa [isHidden] using hc
      have hmark : c ∉ ['\\', mark.char] := by
        intro hmem
        rw [isHidden_eq_false_of_mem hmem] at hhidden
        cases hhidden
      rw [letter?_eq_none_iff.mpr ⟨hletter, hmark⟩, hhidden]
      rfl
    | plain hmark hc =>
      have hhidden : isHidden c = false := by simpa [isHidden] using hc
      have hletter : c ∉ ['\x00', '\t', '\n', '\r'] := by
        intro hmem
        rw [isHidden_of_mem hmem] at hhidden
        cases hhidden
      rw [letter?_eq_none_iff.mpr ⟨hletter, hmark⟩, hhidden]
      rfl
  . rintro rfl
    unfold escape
    split
    . next l hl => apply shows_of_letter? hl
    . next hnone =>
      obtain ⟨hletter, hmark⟩ := letter?_eq_none_iff.mp hnone
      split
      . next hhidden => exact .codePoint hletter (by simpa [isHidden] using hhidden)
      . next hhidden => exact .plain hmark (by simpa [isHidden] using hhidden)

theorem forall₂_shows_iff {mark : Mark} {cs : List Char} {texts : List (List Char)} :
    List.Forall₂ (Shows mark) cs texts ↔ cs.map (escape mark) = texts := by
  have hshows : Shows mark = fun c text => escape mark c = text := by
    funext c text
    exact propext shows_iff
  rw [hshows, ← List.forall₂_map_left_iff (R := Eq), List.forall₂_eq_eq_eq]

theorem string_append_inj {s s' : String} {rest rest' : List Char} :
    (string s).toList ++ rest = (string s').toList ++ rest' ↔ s = s' ∧ rest = rest' := by
  constructor
  . intro h
    have hread := read?_string s rest
    rw [h, read?_string, Option.some.injEq, Prod.mk.injEq, String.toList_inj] at hread
    exact ⟨hread.1.symm, hread.2.symm⟩
  . rintro ⟨rfl, rfl⟩
    rfl

theorem character_append_inj {c c' : Char} {rest rest' : List Char} :
    (character c).toList ++ rest = (character c').toList ++ rest' ↔ c = c' ∧ rest = rest' := by
  constructor
  . intro h
    have hread := read?_character c rest
    rw [h, read?_character, Option.some.injEq, Prod.mk.injEq, List.singleton_inj] at hread
    exact ⟨hread.1.symm, hread.2.symm⟩
  . rintro ⟨rfl, rfl⟩
    rfl

end Text.Quoted

namespace MalformedEntry

open Text.Quoted

theorem message_inj {e e' : MalformedEntry} : e.message = e'.message ↔ e = e' := by
  constructor
  . intro h
    have hread := ofMessage?_message e
    rw [h, ofMessage?_message, Option.some.injEq] at hread
    exact hread.symm
  . rintro rfl
    rfl

theorem message_eq_iff {e : MalformedEntry} {text : String} :
    e.message = text ↔ ∃ shown shown', List.Forall₂ (Shows .double) e.entry.toList shown
      ∧ Shows .single e.separator shown'
      ∧ text = "Malformed pair at index " ++ toString e.index ++ ": \"" ++
        String.ofList shown.flatten ++ "\" has no '" ++ String.ofList shown' ++ "' separator" := by
  simp only [forall₂_shows_iff, shows_iff, exists_and_left, exists_eq_left']
  have hmessage : e.message =
      "Malformed pair at index " ++ toString e.index ++ ": \"" ++
        String.ofList (e.entry.toList.map (escape .double)).flatten ++ "\" has no '" ++
        String.ofList (escape .single e.separator) ++ "' separator" := by
    rw [← String.toList_inj, toList_message]
    simp [string, character, write, Mark.char, List.flatMap_def]
  rw [hmessage]
  apply eq_comm

theorem message_tells_report (e e' : MalformedEntry) :
    (∀ text, e.message = text ↔
      ∃ shown shown', List.Forall₂ (Shows .double) e.entry.toList shown
        ∧ Shows .single e.separator shown'
        ∧ text = "Malformed pair at index " ++ toString e.index ++ ": \"" ++
          String.ofList shown.flatten ++ "\" has no '" ++ String.ofList shown' ++ "' separator")
    ∧ ofMessage? e.message = some e
    ∧ (e.message = e'.message ↔ e = e')
    ∧ (∀ rest rest', (string e.entry).toList ++ rest = (string e'.entry).toList ++ rest' ↔
      e.entry = e'.entry ∧ rest = rest')
    ∧ (∀ rest rest', (character e.separator).toList ++ rest =
      (character e'.separator).toList ++ rest' ↔ e.separator = e'.separator ∧ rest = rest')
    ∧ ∀ (ε : Type) (render : ε → String), (TraversalError.source e).message render = e.message := by
  refine ⟨?_, ?_, ?_, ?_, ?_, ?_⟩
  . intro text
    apply message_eq_iff
  . apply ofMessage?_message
  . apply message_inj
  . intro rest rest'
    apply string_append_inj
  . intro rest rest'
    apply character_append_inj
  . intro ε render
    rfl

end MalformedEntry

end KeyValue
