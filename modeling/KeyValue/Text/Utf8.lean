/-!
This module contains the lossy decoding of bytes as UTF-8. Bytes that do not begin or continue a
well-formed sequence are not refused: every maximal part of a sequence that breaks off, and every
byte that cannot begin one, becomes a single U+FFFD.
-/

namespace KeyValue.Text.Utf8

/--
A sequence that has begun: the bits read so far, the bounds of the next byte, and the number of
bytes that are owed after that one. An ASCII byte never continues a sequence.
-/
structure Unfinished where
  bits : Nat
  low : UInt8 := 0x80
  high : UInt8 := 0xBF
  owed : Nat
  low_ge : 0x80 ≤ low := by decide

/--
The sequence that `b` begins. The bounds of the second byte leave out overlong forms, surrogates
and code points above U+10FFFF.
-/
def Unfinished.ofLead? (b : UInt8) : Option Unfinished :=
  if b < 0xC2 then
    none
  else if b < 0xE0 then
    some { bits := b.toNat - 0xC0, owed := 0 }
  else if b < 0xF0 then
    some {
      bits := b.toNat - 0xE0
      low := if b = 0xE0 then 0xA0 else 0x80
      high := if b = 0xED then 0x9F else 0xBF
      owed := 1
      low_ge := by split <;> decide
    }
  else if b < 0xF5 then
    some {
      bits := b.toNat - 0xF0
      low := if b = 0xF0 then 0x90 else 0x80
      high := if b = 0xF4 then 0x8F else 0xBF
      owed := 2
      low_ge := by split <;> decide
    }
  else
    none

structure Decoder where
  text : String := ""
  pending : Option Unfinished := none

theorem append_push (s t : String) (c : Char) : s ++ t.push c = (s ++ t).push c := by
  rw [← String.append_singleton, ← String.append_singleton, String.append_assoc]

namespace Decoder

def emit (d : Decoder) (c : Char) : Decoder :=
  ⟨d.text.push c, none⟩

def replacement : Char := '\uFFFD'

def start (d : Decoder) (b : UInt8) : Decoder :=
  if b < 0x80 then
    d.emit (Char.ofNat b.toNat)
  else
    match Unfinished.ofLead? b with
    | some u => { d with pending := some u }
    | none => d.emit replacement

def feed (d : Decoder) (b : UInt8) : Decoder :=
  match d.pending with
  | none => d.start b
  | some u =>
    if u.low ≤ b ∧ b ≤ u.high then
      let bits := 64 * u.bits + (b.toNat - 0x80)
      match u.owed with
      | 0 => d.emit (Char.ofNat bits)
      | owed + 1 => { d with pending := some { bits, owed } }
    else
      (d.emit replacement).start b

def finish (d : Decoder) : String :=
  match d.pending with
  | none => d.text
  | some _ => d.text.push replacement

def after (head : String) (d : Decoder) : Decoder :=
  { d with text := head ++ d.text }

theorem emit_after (head : String) (d : Decoder) (c : Char) :
    (d.after head).emit c = (d.emit c).after head := by
  simp [emit, after, append_push]

theorem start_after (head : String) (d : Decoder) (b : UInt8) :
    (d.after head).start b = (d.start b).after head := by
  unfold start
  split
  . rw [emit_after]
  . split
    . rfl
    . rw [emit_after]

theorem feed_after (head : String) (d : Decoder) (b : UInt8) :
    (d.after head).feed b = (d.feed b).after head := by
  unfold feed
  simp only [emit_after, start_after]
  cases h : d.pending with
  | none => simp [after, h]
  | some u =>
    simp only [after, h]
    split
    . split <;> rfl
    . rfl

theorem foldl_feed_after (head : String) (d : Decoder) (bs : List UInt8) :
    bs.foldl feed (d.after head) = (bs.foldl feed d).after head := by
  induction bs generalizing d with
  | nil => rfl
  | cons b bs ih => rw [List.foldl_cons, feed_after, ih, List.foldl_cons]

theorem finish_after (head : String) (d : Decoder) : (d.after head).finish = head ++ d.finish := by
  unfold finish
  cases h : d.pending with
  | none => simp [after, h]
  | some u => simp [after, h, append_push]

theorem feed_of_ascii (d : Decoder) {b : UInt8} (h : b < 0x80) :
    d.feed b = ⟨d.finish.push (Char.ofNat b.toNat), none⟩ := by
  unfold feed finish
  split
  . simp [start, h, emit]
  next u _ =>
    have hlow : ¬(u.low ≤ b ∧ b ≤ u.high) := by
      rintro ⟨hb, _⟩
      have := UInt8.le_iff_toNat_le.mp u.low_ge
      have := UInt8.le_iff_toNat_le.mp hb
      have := UInt8.lt_iff_toNat_lt.mp h
      omega
    simp [hlow, start, h, emit]

end Decoder

def decodeLossy (bs : List UInt8) : String :=
  (bs.foldl Decoder.feed {}).finish

theorem decodeLossy_append_cons (head tail : List UInt8) {b : UInt8} (h : b < 0x80) :
    decodeLossy (head ++ b :: tail) =
      (decodeLossy head).push (Char.ofNat b.toNat) ++ decodeLossy tail := by
  unfold decodeLossy
  rw [List.foldl_append, List.foldl_cons, Decoder.feed_of_ascii _ h, ← Decoder.finish_after,
    ← Decoder.foldl_feed_after]
  simp [Decoder.after]

end KeyValue.Text.Utf8
