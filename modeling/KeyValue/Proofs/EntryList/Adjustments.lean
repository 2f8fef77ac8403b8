import KeyValue.EntryList
import Mathlib.Data.List.Induction

/-!
This module contains sequences of adjustments to a list of entries. The entries stay what they are,
the last setting of the separator counts, and a new format takes back whatever was set before it.
-/

namespace KeyValue

inductive Adjustment where
  | format (new : EntryFormat)
  | separator (new : Char)
  | skipMalformed
deriving DecidableEq

namespace Adjustment

def format? : Adjustment → Option EntryFormat
  | .format new => some new
  | .separator _ => none
  | .skipMalformed => none

def separator? : Adjustment → Option Char
  | .format new => some new.separator
  | .separator new => some new
  | .skipMalformed => none

def last? (setting? : Adjustment → Option α) (as : List Adjustment) : Option α :=
  (as.filterMap setting?).getLast?

/--
One of the adjustments skips malformed entries, and none behind it replaces the format.
-/
def SkipsAfterFormat (as : List Adjustment) : Prop :=
  ∃ front back, as = front ++ .skipMalformed :: back ∧ ∀ a ∈ back, a.format? = none

theorem last?_concat (setting? : Adjustment → Option α) (as : List Adjustment) (a : Adjustment) :
    last? setting? (as ++ [a]) = (setting? a).or (last? setting? as) := by
  unfold last?
  rw [List.filterMap_append, List.getLast?_append]
  cases ha : setting? a with
  | none => simp [ha]
  | some x => simp [ha]

theorem last?_eq_none_iff {setting? : Adjustment → Option α} {as : List Adjustment} :
    last? setting? as = none ↔ ∀ a ∈ as, setting? a = none := by
  rw [last?, List.getLast?_eq_none_iff, List.filterMap_eq_nil_iff]

theorem not_skipsAfterFormat_nil : ¬SkipsAfterFormat [] := by
  simp [SkipsAfterFormat]

theorem skipsAfterFormat_concat_iff {as : List Adjustment} {a : Adjustment} :
    SkipsAfterFormat (as ++ [a]) ↔
      a = .skipMalformed ∨ (a.format? = none ∧ SkipsAfterFormat as) := by
  unfold SkipsAfterFormat
  constructor
  . rintro ⟨front, back, has, hback⟩
    cases back using List.reverseRecOn with
    | nil =>
      rw [List.append_singleton_inj] at has
      exact .inl has.2
    | append_singleton back b =>
      rw [← List.cons_append, ← List.append_assoc, List.append_singleton_inj] at has
      rw [List.forall_mem_append, List.forall_mem_singleton, ← has.2] at hback
      exact .inr ⟨hback.2, front, back, has.1, hback.1⟩
  . rintro (rfl | ⟨ha, front, back, rfl, hback⟩)
    . exact ⟨as, [], rfl, by simp⟩
    . refine ⟨front, back ++ [a], by simp, ?_⟩
      rw [List.forall_mem_append, List.forall_mem_singleton]
      exact ⟨hback, ha⟩

theorem skipsAfterFormat_iff_mem {as : List Adjustment} (h : ∀ a ∈ as, a.format? = none) :
    SkipsAfterFormat as ↔ .skipMalformed ∈ as := by
  unfold SkipsAfterFormat
  constructor
  . rintro ⟨front, back, has, _⟩
    rw [has]
    apply List.mem_append_right front List.mem_cons_self
  . intro hmem
    obtain ⟨front, back, has⟩ := List.append_of_mem hmem
    refine ⟨front, back, has, ?_⟩
    rw [has, List.forall_mem_append, List.forall_mem_cons] at h
    exact h.2.2

end Adjustment

namespace EntryList

open Adjustment

def adjust (l : EntryList) : Adjustment → EntryList
  | .format new => l.withFormat new
  | .separator new => l.withSeparator new
  | .skipMalformed => l.skipMalformed

def adjustAll (l : EntryList) (as : List Adjustment) : EntryList :=
  as.foldl adjust l

theorem adjustAll_cons (l : EntryList) (a : Adjustment) (as : List Adjustment) :
    l.adjustAll (a :: as) = (l.adjust a).adjustAll as := rfl

theorem adjustAll_append (l : EntryList) (as as' : List Adjustment) :
    l.adjustAll (as ++ as') = (l.adjustAll as).adjustAll as' := by
  rw [adjustAll, List.foldl_append]
  rfl

theorem adjustAll_concat (l : EntryList) (as : List Adjustment) (a : Adjustment) :
    l.adjustAll (as ++ [a]) = (l.adjustAll as).adjust a := by
  rw [adjustAll_append]
  rfl

theorem entries_adjust (l : EntryList) (a : Adjustment) : (l.adjust a).entries = l.entries := by
  cases a <;> rfl

theorem separator_adjust (l : EntryList) (a : Adjustment) :
    (l.adjust a).format.separator = a.separator?.getD l.format.separator := by
  cases a <;> rfl

theorem onMalformed_adjust_eq_skip_iff (l : EntryList) (a : Adjustment) :
    (l.adjust a).format.onMalformed = .skip ↔
      a = .skipMalformed ∨ (a.format?.getD l.format).onMalformed = .skip := by
  cases a with
  | format new => simp [adjust, withFormat, format?]
  | separator new => simp [adjust, withSeparator, format?]
  | skipMalformed => simp [adjust, skipMalformed]

theorem entries_adjustAll (l : EntryList) (as : List Adjustment) :
    (l.adjustAll as).entries = l.entries := by
  induction as using List.reverseRecOn with
  | nil => rfl
  | append_singleton as a ih => rw [adjustAll_concat, entries_adjust, ih]

theorem separator_adjustAll (l : EntryList) (as : List Adjustment) :
    (l.adjustAll as).format.separator = (last? separator? as).getD l.format.separator := by
  -- From the end: one more adjustment overrules those in front of it or leaves the setting alone.
  induction as using List.reverseRecOn with
  | nil => rfl
  | append_singleton as a ih =>
    rw [adjustAll_concat, separator_adjust, ih, last?_concat]
    cases a.separator? <;> rfl

theorem onMalformed_adjustAll_eq_skip_iff (l : EntryList) (as : List Adjustment) :
    (l.adjustAll as).format.onMalformed = .skip ↔
      SkipsAfterFormat as ∨ ((last? format? as).getD l.format).onMalformed = .skip := by
  induction as using List.reverseRecOn with
  | nil => simp [adjustAll, last?, not_skipsAfterFormat_nil]
  | append_singleton as a ih =>
    rw [adjustAll_concat, onMalformed_adjust_eq_skip_iff, skipsAfterFormat_concat_iff, last?_concat]
    cases a.format? with
    | none => simp [ih, or_assoc]
    | some new => simp

theorem eq_of_settings_eq {l l' : EntryList} (hentries : l.entries = l'.entries)
    (hseparator : l.format.separator = l'.format.separator)
    (hskip : l.format.onMalformed = .skip ↔ l'.format.onMalformed = .skip) : l = l' := by
  obtain ⟨entries, c, policy⟩ := l
  obtain ⟨entries', c', policy'⟩ := l'
  cases policy <;> cases policy' <;> simp_all

theorem adjustAll_eq_iff_of_perm {l : EntryList} {as as' : List Adjustment} (hperm : as.Perm as')
    (hformat : ∀ a ∈ as, a.format? = none) :
    l.adjustAll as = l.adjustAll as' ↔ last? separator? as = last? separator? as' := by
  have hformat' : ∀ a ∈ as', a.format? = none := by
    simpa only [hperm.mem_iff] using hformat
  have hnone : last? separator? as = none ↔ last? separator? as' = none := by
    simp only [last?_eq_none_iff, hperm.mem_iff]
  constructor
  . intro h
    have hseparator := separator_adjustAll l as
    rw [h, separator_adjustAll] at hseparator
    cases hc : last? separator? as with
    | none => rw [hnone.mp hc]
    | some c =>
      cases hc' : last? separator? as' with
      | none =>
        rw [hnone.mpr hc'] at hc
        cases hc
      | some c' =>
        rw [hc, hc', Option.getD_some, Option.getD_some] at hseparator
        rw [hseparator]
  . intro h
    apply eq_of_settings_eq
    . rw [entries_adjustAll, entries_adjustAll]
    . rw [separator_adjustAll, separator_adjustAll, h]
    . rw [onMalformed_adjustAll_eq_skip_iff, onMalformed_adjustAll_eq_skip_iff,
        skipsAfterFormat_iff_mem hformat, skipsAfterFormat_iff_mem hformat', hperm.mem_iff,
        last?_eq_none_iff.mpr hformat, last?_eq_none_iff.mpr hformat']

theorem adjustAll_append_format_cons (l : EntryList) (front back : List Adjustment)
    (new : EntryFormat) :
    l.adjustAll (front ++ .format new :: back) = l.adjustAll (.format new :: back) := by
  have hformat : (l.adjustAll front).withFormat new = l.withFormat new := by
    rw [withFormat, withFormat, entries_adjustAll]
  rw [adjustAll_append, adjustAll_cons, adjustAll_cons, adjust, adjust, hformat]

theorem last_settings_decide_visit (l : EntryList) (as : List Adjustment) :
    (l.adjustAll as).entries = l.entries
    ∧ (l.adjustAll as).size = l.size
    ∧ (∃ format : EntryFormat,
      format.separator = (last? separator? as).getD l.format.separator
      ∧ (format.onMalformed = .skip ↔
        SkipsAfterFormat as ∨ ((last? format? as).getD l.format).onMalformed = .skip)
      ∧ ∀ (m : Type → Type) [Monad m] (ε : Type) (f : Callback m ε),
        (l.adjustAll as).visit f = format.visit l.entries f)
    ∧ (∀ front more more', more.Perm more' → (∀ a ∈ more, a.format? = none) →
      (last? separator? more = last? separator? more' ↔
        ∀ back, l.adjustAll (front ++ more ++ back) = l.adjustAll (front ++ more' ++ back)))
    ∧ ∀ front new back,
      l.adjustAll (front ++ .format new :: back) = l.adjustAll (.format new :: back) := by
  refine ⟨?_, ?_, ⟨(l.adjustAll as).format, ?_, ?_, ?_⟩, ?_, ?_⟩
  . apply entries_adjustAll
  . rw [size, entries_adjustAll]
    rfl
  . apply separator_adjustAll
  . apply onMalformed_adjustAll_eq_skip_iff
  . intro m _ ε f
    rw [visit, entries_adjustAll]
  . intro front more more' hperm hformat
    rw [← adjustAll_eq_iff_of_perm (l := l.adjustAll front) hperm hformat]
    constructor
    . intro h back
      rw [adjustAll_append, adjustAll_append, adjustAll_append, adjustAll_append, h]
    . intro h
      specialize h []
      rw [List.append_nil, List.append_nil, adjustAll_append, adjustAll_append] at h
      exact h
  . intro front new back
    apply adjustAll_append_format_cons

theorem last_settings_decide_visit_reordered :
    let l : EntryList := { entries := ["A:1", "X", "B=2"], format := .lenient }
    let more : List Adjustment := [.separator ';', .skipMalformed, .separator ':']
    let more' : List Adjustment := [.skipMalformed, .separator ';', .separator ':']
    more.Perm more' ∧ (∀ a ∈ more, a.format? = none)
    ∧ last? separator? more = last? separator? more'
    ∧ l.adjustAll ([.separator ','] ++ more ++ []) = l.adjustAll ([.separator ','] ++ more' ++ [])
    ∧ l.adjustAll ([.separator ','] ++ .format .strict :: more) =
      l.adjustAll (.format .strict :: more)
    ∧ ∀ (σ ε : Type) (f : Callback (StateM σ) ε),
      (l.adjustAll (.format .strict :: more)).visit f =
        EntryFormat.visit { separator := ':', onMalformed := .skip } ["A:1", "X", "B=2"] f := by
  intro l more more'
  have hperm : more.Perm more' := by decide
  have hformat : ∀ a ∈ more, a.format? = none := by decide
  have hlast : last? separator? more = last? separator? more' := by rfl
  obtain ⟨_, _, ⟨format, hseparator, hskip, hvisit⟩, horder, hfront⟩ :=
    last_settings_decide_visit l (.format .strict :: more)
  refine ⟨hperm, hformat, hlast, ?_, ?_, ?_⟩
  . apply (horder [.separator ','] more more' hperm hformat).mp hlast
  . apply hfront
  . intro σ ε f
    have hpolicy : format.onMalformed = .skip :=
      hskip.mpr (.inl ⟨[.format .strict, .separator ';'], [.separator ':'], rfl, by decide⟩)
    have hformat : format = { separator := ':', onMalformed := .skip } := by
      rw [← hpolicy, show ':' = format.separator from hseparator.symm]
    rw [hvisit, hformat]

end EntryList

end KeyValue
