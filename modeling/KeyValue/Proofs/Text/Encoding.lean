import KeyValue.Text.Utf8

namespace KeyValue.Text.Utf8

theorem toNat_of_eq_ofNat {c : Char} {n : Nat} (hc : c = Char.ofNat n)
    (h : n < 0xD800 ∨ 0xDFFF < n ∧ n < 0x110000) : c.toNat = n := by
  rw [hc, Char.ofNat, dif_pos h]
  rfl

theorem toNat_lt (c : Char) : c.toNat < 0xD800 ∨ 0xDFFF < c.toNat ∧ c.toNat < 0x110000 :=
  c.valid

/--
The sequences of one to four bytes that stand for `c`. Every character has exactly one.
-/
inductive Encodes (c : Char) : List UInt8 → Prop where
  | one {b : UInt8} (hc : c.toNat < 0x80) (hb : b.toNat = c.toNat) : Encodes c [b]
  | two {b x : UInt8} (hlow : 0x80 ≤ c.toNat) (hhigh : c.toNat < 0x800)
      (hb : b.toNat = 0xC0 + c.toNat / 64) (hx : x.toNat = 0x80 + c.toNat % 64) : Encodes c [b, x]
  | three {b x y : UInt8} (hlow : 0x800 ≤ c.toNat) (hhigh : c.toNat < 0x10000)
      (hb : b.toNat = 0xE0 + c.toNat / 4096) (hx : x.toNat = 0x80 + c.toNat / 64 % 64)
      (hy : y.toNat = 0x80 + c.toNat % 64) : Encodes c [b, x, y]
  | four {b x y z : UInt8} (hlow : 0x10000 ≤ c.toNat)
      (hb : b.toNat = 0xF0 + c.toNat / 262144) (hx : x.toNat = 0x80 + c.toNat / 4096 % 64)
      (hy : y.toNat = 0x80 + c.toNat / 64 % 64) (hz : z.toNat = 0x80 + c.toNat % 64) :
      Encodes c [b, x, y, z]

theorem encodes_utf8EncodeChar (c : Char) : Encodes c (String.utf8EncodeChar c) := by
  have hvalid := toNat_lt c
  simp only [String.utf8EncodeChar, Char.toNat_val]
  split
  . apply Encodes.one
    all_goals
      try rw [UInt8.toNat_ofNat']
      omega
  split
  . apply Encodes.two
    all_goals
      try rw [UInt8.toNat_ofNat']
      omega
  split
  . apply Encodes.three
    all_goals
      try rw [UInt8.toNat_ofNat']
      omega
  . apply Encodes.four
    all_goals
      try rw [UInt8.toNat_ofNat']
      omega

theorem encodes_iff {c : Char} {bs : List UInt8} : Encodes c bs ↔ String.utf8EncodeChar c = bs := by
  have hc := encodes_utf8EncodeChar c
  constructor
  . intro h
    generalize String.utf8EncodeChar c = bs' at hc
    cases h <;> cases hc
    all_goals
      try simp only [List.cons.injEq, ← UInt8.toNat_inj, and_true]
      omega
  . intro h
    rw [← h]
    apply hc

def encode (s : String) : List UInt8 :=
  s.toList.flatMap String.utf8EncodeChar

theorem encode_append (s t : String) : encode (s ++ t) = encode s ++ encode t := by
  rw [encode, String.toList_append, List.flatMap_append]
  rfl

theorem toUTF8_eq_iff {s : String} {bs : List UInt8} :
    s.toUTF8 = bs.toByteArray ↔ encode s = bs := by
  have hs : s.toUTF8 = (encode s).toByteArray := by
    rw [String.toUTF8_eq_toByteArray, ← String.utf8Encode_toList]
    rfl
  constructor
  . intro h
    rw [hs] at h
    rw [← List.toList_data_toByteArray (l := encode s), h, List.toList_data_toByteArray]
  . intro h
    rw [hs, h]

namespace Unfinished

def Accepts (u : Unfinished) (b : UInt8) : Prop :=
  u.low ≤ b ∧ b ≤ u.high

def bitsWith (u : Unfinished) (b : UInt8) : Nat :=
  64 * u.bits + (b.toNat - 0x80)

/--
The bytes `bs` are the `owed` ones that come last, and with them `bits` turn into `c`.
-/
def Continues : Nat → Nat → List UInt8 → Char → Prop
  | bits, 0, bs, c => bs = [] ∧ c = Char.ofNat bits
  | _, _ + 1, [], _ => False
  | bits, owed + 1, b :: bs, c =>
    (0x80 ≤ b.toNat ∧ b.toNat ≤ 0xBF) ∧ Continues (64 * bits + (b.toNat - 0x80)) owed bs c

def Completes (u : Unfinished) : List UInt8 → Char → Prop
  | [], _ => False
  | b :: bs, c => u.Accepts b ∧ Continues (u.bitsWith b) u.owed bs c

theorem accepts_iff {u : Unfinished} {b : UInt8} :
    u.Accepts b ↔ u.low.toNat ≤ b.toNat ∧ b.toNat ≤ u.high.toNat := by
  rw [Accepts, UInt8.le_iff_toNat_le, UInt8.le_iff_toNat_le]

theorem accepts_later_iff {bits owed : Nat} {b : UInt8} :
    Accepts { bits, owed } b ↔ 0x80 ≤ b.toNat ∧ b.toNat ≤ 0xBF :=
  accepts_iff

theorem completes_later_iff {bits owed : Nat} {bs : List UInt8} {c : Char} :
    Completes { bits, owed } bs c ↔ Continues bits (owed + 1) bs c := by
  cases bs with
  | nil => rfl
  | cons b bs =>
    rw [Completes, accepts_later_iff]
    rfl

theorem exists_continues (bits owed : Nat) : ∃ bs c, Continues bits owed bs c := by
  induction owed generalizing bits with
  | zero => exact ⟨[], _, rfl, rfl⟩
  | succ owed ih =>
    obtain ⟨bs, c, h⟩ := ih (64 * bits)
    exact ⟨0x80 :: bs, c, by decide, h⟩

/--
What is read off the first byte of a sequence. The second byte must not lead to a code point that a
shorter sequence stands for, to a surrogate or beyond the last code point.
-/
inductive Follows (b : UInt8) (u : Unfinished) : Prop where
  | two (hlow : 0xC2 ≤ b.toNat) (hhigh : b.toNat < 0xE0) (howed : u.owed = 0)
      (hbits : u.bits = b.toNat - 0xC0)
      (haccepts : ∀ x, u.Accepts x ↔ 0x80 ≤ x.toNat ∧ x.toNat ≤ 0xBF)
  | three (hlow : 0xE0 ≤ b.toNat) (hhigh : b.toNat < 0xF0) (howed : u.owed = 1)
      (hbits : u.bits = b.toNat - 0xE0)
      (haccepts : ∀ x, u.Accepts x ↔ (0x80 ≤ x.toNat ∧ x.toNat ≤ 0xBF)
        ∧ 0x800 ≤ 64 * u.bitsWith x
        ∧ (64 * u.bitsWith x < 0xD800 ∨ 0xE000 ≤ 64 * u.bitsWith x))
  | four (hlow : 0xF0 ≤ b.toNat) (hhigh : b.toNat < 0xF5) (howed : u.owed = 2)
      (hbits : u.bits = b.toNat - 0xF0)
      (haccepts : ∀ x, u.Accepts x ↔ (0x80 ≤ x.toNat ∧ x.toNat ≤ 0xBF)
        ∧ 0x10000 ≤ 4096 * u.bitsWith x ∧ 4096 * u.bitsWith x < 0x110000)

theorem follows_of_ofLead? {b : UInt8} {u : Unfinished} (h : ofLead? b = some u) : Follows b u := by
  unfold ofLead? at h
  simp only [UInt8.lt_iff_toNat_lt, ← UInt8.toNat_inj, UInt8.reduceToNat] at h
  split at h
  . cases h
  split at h
  . rw [← Option.some.inj h]
    apply Follows.two
    . omega
    . omega
    . rfl
    . rfl
    . intro x
      apply accepts_later_iff
  split at h
  . rw [← Option.some.inj h]
    apply Follows.three
    . omega
    . omega
    . rfl
    . rfl
    . intro x
      rw [accepts_iff]
      unfold bitsWith
      dsimp only
      split
      all_goals
        split
        all_goals
          simp only [UInt8.reduceToNat]
          omega
  split at h
  . rw [← Option.some.inj h]
    apply Follows.four
    . omega
    . omega
    . rfl
    . rfl
    . intro x
      rw [accepts_iff]
      unfold bitsWith
      dsimp only
      split
      all_goals
        split
        all_goals
          simp only [UInt8.reduceToNat]
          omega
  . cases h

theorem exists_ofLead? {b : UInt8} (hlow : 0xC2 ≤ b.toNat) (hhigh : b.toNat < 0xF5) :
    ∃ u, ofLead? b = some u := by
  have hnot : ¬b.toNat < 0xC2 := by omega
  unfold ofLead?
  simp only [UInt8.lt_iff_toNat_lt, UInt8.reduceToNat, hnot, hhigh, if_false, if_true]
  split
  . exact ⟨_, rfl⟩
  split
  . exact ⟨_, rfl⟩
  . exact ⟨_, rfl⟩

end Unfinished

theorem Encodes.exists_completes {c : Char} {b : UInt8} {bs : List UInt8}
    (h : Encodes c (b :: bs)) (hb : 0x80 ≤ b.toNat) :
    ∃ u, Unfinished.ofLead? b = some u ∧ u.Completes bs c := by
  have hvalid := toNat_lt c
  have hlead : 0xC2 ≤ b.toNat ∧ b.toNat < 0xF5 := by
    cases h <;> omega
  obtain ⟨u, hu⟩ := Unfinished.exists_ofLead? hlead.1 hlead.2
  refine ⟨u, hu, ?_⟩
  have hc (n : Nat) (hn : n = c.toNat) : c = Char.ofNat n := by
    rw [hn, Char.ofNat_toNat]
  have hfollows := Unfinished.follows_of_ofLead? hu
  cases h with
  | one => omega
  | two =>
    cases hfollows with
    | two _ _ howed hbits haccepts =>
      rw [Unfinished.Completes, haccepts, howed]
      refine ⟨?_, rfl, hc _ ?_⟩
      . omega
      . unfold Unfinished.bitsWith
        omega
    | three => omega
    | four => omega
  | @three _ x y =>
    cases hfollows with
    | two => omega
    | three _ _ howed hbits haccepts =>
      have hx : u.bitsWith x = c.toNat / 64 := by
        unfold Unfinished.bitsWith
        omega
      rw [Unfinished.Completes, haccepts, howed, hx]
      refine ⟨?_, ?_, rfl, hc _ ?_⟩
      all_goals omega
    | four => omega
  | @four _ x y z =>
    cases hfollows with
    | two => omega
    | three => omega
    | four _ _ howed hbits haccepts =>
      have hx : u.bitsWith x = c.toNat / 4096 := by
        unfold Unfinished.bitsWith
        omega
      rw [Unfinished.Completes, haccepts, howed, hx]
      refine ⟨?_, ?_, ?_, rfl, hc _ ?_⟩
      all_goals omega

theorem Unfinished.Completes.encodes {u : Unfinished} {c : Char} {b : UInt8} {bs : List UInt8}
    (h : u.Completes bs c) (hu : Unfinished.ofLead? b = some u) : Encodes c (b :: bs) := by
  match bs with
  | [] => cases h
  | x :: bs =>
    obtain ⟨hx, h⟩ := h
    cases follows_of_ofLead? hu with
    | two _ _ howed hbits haccepts =>
      rw [haccepts] at hx
      rw [howed] at h
      unfold bitsWith at h
      obtain ⟨rfl, hc⟩ := h
      have hcode := toNat_of_eq_ofNat hc (by omega)
      apply Encodes.two <;> omega
    | three _ _ howed hbits haccepts =>
      rw [haccepts] at hx
      rw [howed] at h
      unfold bitsWith at *
      match bs with
      | [] => cases h
      | y :: bs =>
        obtain ⟨hy, rfl, hc⟩ := h
        have hcode := toNat_of_eq_ofNat hc (by omega)
        apply Encodes.three <;> omega
    | four _ _ howed hbits haccepts =>
      rw [haccepts] at hx
      rw [howed] at h
      unfold bitsWith at *
      match bs with
      | [] => cases h
      | [_] => cases h.2
      | y :: z :: bs =>
        obtain ⟨hy, hz, rfl, hc⟩ := h
        have hcode := toNat_of_eq_ofNat hc (by omega)
        apply Encodes.four <;> omega

end KeyValue.Text.Utf8
