import KeyValue.Proofs.Text.Encoding

/-!
This module contains what lossy decoding makes of arbitrary bytes, said without the decoder: the
characters whose encodings follow each other, and one U+FFFD for every maximal part between them
that belongs to none. The decoder gives exactly this text, for any bytes.
-/

namespace KeyValue.Text.Utf8

/--
The bytes `part`, with `rest` behind them, are replaced as one. No character begins with them, and
they are as many as the encoding of a character can begin with, but at least one.
-/
structure IsMaximalSubpart (part rest : List UInt8) : Prop where
  ne_nil : part ≠ []
  begins : part.length = 1 ∨ ∃ c, part <+: String.utf8EncodeChar c
  ill_formed : ∀ c, ¬String.utf8EncodeChar c <+: part ++ rest
  maximal : ∀ c head, head <+: part ++ rest → head <+: String.utf8EncodeChar c →
    head.length ≤ part.length

inductive Decodes : List UInt8 → List Char → Prop where
  | nil : Decodes [] []
  | character {c : Char} {bs : List UInt8} {cs : List Char} (h : Decodes bs cs) :
      Decodes (String.utf8EncodeChar c ++ bs) (c :: cs)
  | replaced {part bs : List UInt8} {cs : List Char} (hpart : IsMaximalSubpart part bs)
      (h : Decodes bs cs) : Decodes (part ++ bs) (Decoder.replacement :: cs)

theorem head_of_append {head part rest : List UInt8} (h : head <+: part ++ rest) :
    head <+: part ∨ ∃ b bs bs', head = part ++ b :: bs ∧ rest = b :: bs' := by
  obtain ⟨tail, h⟩ := h
  rw [List.append_eq_append_iff] at h
  cases h with
  | inl h =>
    obtain ⟨more, hpart, _⟩ := h
    exact .inl ⟨more, hpart.symm⟩
  | inr h =>
    obtain ⟨more, hhead, hrest⟩ := h
    cases more with
    | nil =>
      rw [List.append_nil] at hhead
      rw [hhead]
      exact .inl (List.prefix_refl part)
    | cons b bs => exact .inr ⟨b, bs, bs ++ tail, hhead, hrest⟩

theorem utf8EncodeChar_append_inj {c c' : Char} {bs bs' : List UInt8}
    (h : String.utf8EncodeChar c ++ bs = String.utf8EncodeChar c' ++ bs') :
    c = c' ∧ bs = bs' := by
  have hfirst (c : Char) (bs : List UInt8) :
      (String.utf8EncodeChar c ++ bs).toByteArray.utf8DecodeChar? 0 = some c := by
    rw [List.toByteArray_append, ByteArray.utf8DecodeChar?_utf8EncodeChar_append]
  have hc : c = c' := by
    rw [← Option.some.injEq, ← hfirst c bs, h, hfirst]
  rw [hc, List.append_right_inj] at h
  exact ⟨hc, h⟩

namespace Unfinished

structure ReadFrom (u : Unfinished) (part : List UInt8) : Prop where
  ne_nil : part ≠ []
  begins : part.length = 1 ∨ ∃ c, part <+: String.utf8EncodeChar c
  unfinished : ∀ c, ¬String.utf8EncodeChar c <+: part
  completes_iff : ∀ c bs, String.utf8EncodeChar c = part ++ bs ↔ u.Completes bs c

theorem readFrom_of_ofLead? {b : UInt8} {u : Unfinished} (h : ofLead? b = some u) :
    u.ReadFrom [b] := by
  have hb : 0x80 ≤ b.toNat := by
    cases follows_of_ofLead? h <;> omega
  have hcompletes (c : Char) (bs : List UInt8) :
      String.utf8EncodeChar c = [b] ++ bs ↔ u.Completes bs c := by
    rw [← encodes_iff]
    constructor
    . intro hc
      obtain ⟨u', hu', hc⟩ := hc.exists_completes hb
      rw [h, Option.some.injEq] at hu'
      rw [hu']
      exact hc
    . intro hc
      apply hc.encodes h
  refine ⟨List.cons_ne_nil b [], .inl rfl, ?_, hcompletes⟩
  intro c hc
  cases List.prefix_cons_iff.mp hc with
  | inl hnil => exact String.utf8EncodeChar_ne_nil hnil
  | inr hcons =>
    obtain ⟨bs, hc, hbs⟩ := hcons
    rw [List.prefix_nil] at hbs
    rw [hbs] at hc
    exact (hcompletes c []).mp hc

variable {u : Unfinished} {part : List UInt8}

theorem ReadFrom.utf8EncodeChar_eq (h : u.ReadFrom part) {b : UInt8} (hb : u.Accepts b)
    (howed : u.owed = 0) :
    String.utf8EncodeChar (Char.ofNat (u.bitsWith b)) = part ++ [b] := by
  rw [h.completes_iff, Completes, howed]
  exact ⟨hb, rfl, rfl⟩

theorem ReadFrom.append_singleton (h : u.ReadFrom part) {b : UInt8} (hb : u.Accepts b) {owed : Nat}
    (howed : u.owed = owed + 1) :
    ReadFrom { bits := u.bitsWith b, owed } (part ++ [b]) := by
  have hcompletes (c : Char) (bs : List UInt8) :
      String.utf8EncodeChar c = part ++ [b] ++ bs ↔
        Completes { bits := u.bitsWith b, owed } bs c := by
    rw [List.append_assoc, h.completes_iff, completes_later_iff, List.singleton_append, Completes,
      howed, and_iff_right hb]
  refine ⟨?_, ?_, ?_, hcompletes⟩
  . simp
  . obtain ⟨bs, c, hbs⟩ := exists_continues (u.bitsWith b) (owed + 1)
    rw [← completes_later_iff, ← hcompletes] at hbs
    exact .inr ⟨c, bs, hbs.symm⟩
  . intro c hc
    rw [List.prefix_concat_iff] at hc
    cases hc with
    | inl hc =>
      rw [← List.append_nil (part ++ [b]), hcompletes] at hc
      exact hc
    | inr hc => exact h.unfinished c hc

theorem ReadFrom.isMaximalSubpart (h : u.ReadFrom part) {rest : List UInt8}
    (hrest : ∀ b bs, rest = b :: bs → ¬u.Accepts b) : IsMaximalSubpart part rest := by
  -- A head that reaches beyond `part` would go on with a byte that the sequence accepts.
  have hnot (c : Char) (b : UInt8) (bs bs' : List UInt8) (hb : rest = b :: bs') :
      ¬part ++ b :: bs <+: String.utf8EncodeChar c := by
    intro ⟨tail, hc⟩
    rw [List.append_assoc, eq_comm, h.completes_iff] at hc
    exact hrest b bs' hb hc.1
  refine ⟨h.ne_nil, h.begins, ?_, ?_⟩
  . intro c hc
    cases head_of_append hc with
    | inl hc => exact h.unfinished c hc
    | inr hc =>
      obtain ⟨b, bs, bs', hc, hb⟩ := hc
      apply hnot c b bs bs' hb
      simp [hc]
  . intro c head hhead hc
    cases head_of_append hhead with
    | inl hhead => exact hhead.length_le
    | inr hhead =>
      obtain ⟨b, bs, bs', rfl, hb⟩ := hhead
      exact absurd hc (hnot c b bs bs' hb)

end Unfinished

theorem isMaximalSubpart_of_ofLead?_eq_none {b : UInt8} (hb : 0x80 ≤ b.toNat)
    (h : Unfinished.ofLead? b = none) (rest : List UInt8) : IsMaximalSubpart [b] rest := by
  have hnot (c : Char) (bs : List UInt8) : String.utf8EncodeChar c ≠ b :: bs := by
    intro hc
    rw [← encodes_iff] at hc
    obtain ⟨u, hu, _⟩ := hc.exists_completes hb
    rw [h] at hu
    cases hu
  refine ⟨List.cons_ne_nil b [], .inl rfl, ?_, ?_⟩
  . intro c hc
    cases List.prefix_cons_iff.mp hc with
    | inl hnil => exact String.utf8EncodeChar_ne_nil hnil
    | inr hcons =>
      obtain ⟨bs, hc, _⟩ := hcons
      exact hnot c bs hc
  . intro c head hhead hc
    cases List.prefix_cons_iff.mp hhead with
    | inl hnil => simp [hnil]
    | inr hcons =>
      obtain ⟨bs, rfl, _⟩ := hcons
      obtain ⟨tail, hc⟩ := hc
      exact absurd hc.symm (hnot c (bs ++ tail))

theorem utf8EncodeChar_of_ascii {b : UInt8} (h : b.toNat < 0x80) :
    String.utf8EncodeChar (Char.ofNat b.toNat) = [b] := by
  have hcode : (Char.ofNat b.toNat).toNat = b.toNat := toNat_of_eq_ofNat rfl (by omega)
  rw [← encodes_iff]
  apply Encodes.one
  . omega
  . omega

namespace Decoder

/--
The decoder has read the bytes `bs`. It has still to decide about the last of them, `part`, and what
the others decode to is its text, whatever comes next.
-/
structure HasRead (d : Decoder) (bs part : List UInt8) : Prop where
  holds : match d.pending with
    | none => part = []
    | some u => u.ReadFrom part
  decodes : ∀ rest cs, Decodes (part ++ rest) cs → Decodes (bs ++ rest) (d.text.toList ++ cs)

theorem hasRead_empty : HasRead {} [] [] where
  holds := rfl
  decodes := fun _ _ h => h

theorem hasRead_emit {d : Decoder} {bs : List UInt8} {c : Char}
    (h : ∀ rest cs, Decodes rest cs → Decodes (bs ++ rest) (d.text.toList ++ c :: cs)) :
    (d.emit c).HasRead bs [] where
  holds := rfl
  decodes := by
    intro rest cs hcs
    rw [emit, String.toList_push, List.append_assoc]
    apply h rest cs hcs

theorem exists_hasRead_start {d : Decoder} {bs : List UInt8} {b : UInt8}
    (h : ∀ rest cs, Decodes (b :: rest) cs → Decodes (bs ++ b :: rest) (d.text.toList ++ cs)) :
    ∃ part, (d.start b).HasRead (bs ++ [b]) part := by
  by_cases hascii : b < 0x80
  . rw [start, if_pos hascii]
    refine ⟨[], hasRead_emit ?_⟩
    intro rest cs hcs
    rw [List.append_assoc]
    apply h
    have hcharacter := Decodes.character (c := Char.ofNat b.toNat) hcs
    rw [utf8EncodeChar_of_ascii hascii] at hcharacter
    exact hcharacter
  rw [start, if_neg hascii]
  cases hlead : Unfinished.ofLead? b with
  | some u =>
    refine ⟨[b], Unfinished.readFrom_of_ofLead? hlead, ?_⟩
    intro rest cs hcs
    rw [List.append_assoc]
    apply h rest cs hcs
  | none =>
    have hb : 0x80 ≤ b.toNat := UInt8.le_iff_toNat_le.mp (UInt8.not_lt.mp hascii)
    refine ⟨[], hasRead_emit ?_⟩
    intro rest cs hcs
    rw [List.append_assoc]
    apply h
    apply Decodes.replaced (isMaximalSubpart_of_ofLead?_eq_none hb hlead rest) hcs

theorem feed_of_accepts_last (text : String) {u : Unfinished} {b : UInt8} (hb : u.Accepts b)
    (howed : u.owed = 0) :
    feed { text, pending := some u } b = emit { text } (Char.ofNat (u.bitsWith b)) := by
  unfold feed
  dsimp only
  rw [if_pos (by exact hb), howed]
  rfl

theorem feed_of_accepts (text : String) {u : Unfinished} {b : UInt8} {owed : Nat}
    (hb : u.Accepts b) (howed : u.owed = owed + 1) :
    feed { text, pending := some u } b =
      { text, pending := some { bits := u.bitsWith b, owed } } := by
  unfold feed
  dsimp only
  rw [if_pos (by exact hb), howed]
  rfl

theorem feed_of_not_accepts (text : String) {u : Unfinished} {b : UInt8} (hb : ¬u.Accepts b) :
    feed { text, pending := some u } b = start { text := text.push replacement } b := by
  unfold feed
  dsimp only
  rw [if_neg (by exact hb)]
  rfl

theorem HasRead.exists_feed {d : Decoder} {bs part : List UInt8} (h : d.HasRead bs part)
    (b : UInt8) : ∃ part', (d.feed b).HasRead (bs ++ [b]) part' := by
  obtain ⟨text, pending⟩ := d
  obtain ⟨hpart, hdecodes⟩ := h
  cases pending with
  | none =>
    rw [hpart] at hdecodes
    apply exists_hasRead_start
    intro rest cs hcs
    apply hdecodes (b :: rest) cs hcs
  | some u =>
    by_cases hb : u.Accepts b
    . cases howed : u.owed with
      | zero =>
        rw [feed_of_accepts_last text hb howed]
        refine ⟨[], hasRead_emit ?_⟩
        intro rest cs hcs
        rw [List.append_assoc]
        apply hdecodes
        have hcharacter := Decodes.character (c := Char.ofNat (u.bitsWith b)) hcs
        rw [hpart.utf8EncodeChar_eq hb howed, List.append_assoc] at hcharacter
        exact hcharacter
      | succ owed =>
        rw [feed_of_accepts text hb howed]
        refine ⟨part ++ [b], hpart.append_singleton hb howed, ?_⟩
        intro rest cs hcs
        rw [List.append_assoc] at *
        apply hdecodes _ cs hcs
    . rw [feed_of_not_accepts text hb]
      apply exists_hasRead_start
      intro rest cs hcs
      rw [String.toList_push, List.append_assoc]
      apply hdecodes
      apply Decodes.replaced _ hcs
      apply hpart.isMaximalSubpart
      intro b' bs' hbs
      rw [← (List.cons.inj hbs).1]
      exact hb

theorem HasRead.exists_foldl_feed {d : Decoder} {bs part : List UInt8} (h : d.HasRead bs part)
    (bs' : List UInt8) : ∃ part', (bs'.foldl feed d).HasRead (bs ++ bs') part' := by
  induction bs' generalizing d bs part with
  | nil =>
    rw [List.append_nil]
    exact ⟨part, h⟩
  | cons b bs' ih =>
    obtain ⟨part', h'⟩ := h.exists_feed b
    rw [List.foldl_cons, List.append_cons]
    apply ih h'

theorem HasRead.decodes_finish {d : Decoder} {bs part : List UInt8} (h : d.HasRead bs part) :
    Decodes bs d.finish.toList := by
  obtain ⟨text, pending⟩ := d
  obtain ⟨hpart, hdecodes⟩ := h
  cases pending with
  | none =>
    rw [hpart] at hdecodes
    simpa [finish] using hdecodes [] [] .nil
  | some u =>
    have hmaximal : IsMaximalSubpart part [] := by
      apply hpart.isMaximalSubpart
      simp
    simpa [finish] using hdecodes [] [replacement] (.replaced hmaximal .nil)

end Decoder

theorem decodes_decodeLossy (bs : List UInt8) : Decodes bs (decodeLossy bs).toList := by
  obtain ⟨part, h⟩ := Decoder.hasRead_empty.exists_foldl_feed bs
  apply h.decodes_finish

theorem IsMaximalSubpart.append_inj {part part' rest rest' : List UInt8}
    (h : IsMaximalSubpart part rest) (h' : IsMaximalSubpart part' rest')
    (heq : part ++ rest = part' ++ rest') : part = part' ∧ rest = rest' := by
  have hle {part part' rest rest' : List UInt8} (h : IsMaximalSubpart part rest)
      (h' : IsMaximalSubpart part' rest') (heq : part ++ rest = part' ++ rest') :
      part.length ≤ part'.length := by
    cases h.begins with
    | inl hone =>
      rw [hone]
      apply List.length_pos_iff.mpr h'.ne_nil
    | inr hbegins =>
      obtain ⟨c, hc⟩ := hbegins
      apply h'.maximal c part _ hc
      rw [← heq]
      apply List.prefix_append
  apply List.append_inj heq
  apply Nat.le_antisymm
  . apply hle h h' heq
  . apply hle h' h heq.symm

theorem Decodes.unique {bs : List UInt8} {cs cs' : List Char} (h : Decodes bs cs)
    (h' : Decodes bs cs') : cs = cs' := by
  induction h generalizing cs' with
  | nil =>
    generalize hbs : [] = bs at h'
    cases h' with
    | nil => rfl
    | character => simp [String.utf8EncodeChar_ne_nil] at hbs
    | replaced hpart => simp [hpart.ne_nil] at hbs
  | @character c bs cs _ ih =>
    generalize hbs : String.utf8EncodeChar c ++ bs = bytes at h'
    cases h' with
    | nil => simp [String.utf8EncodeChar_ne_nil] at hbs
    | character h' =>
      obtain ⟨rfl, rfl⟩ := utf8EncodeChar_append_inj hbs
      rw [ih h']
    | replaced hpart => exact absurd ⟨bs, hbs⟩ (hpart.ill_formed c)
  | @replaced part bs cs hpart _ ih =>
    generalize hbs : part ++ bs = bytes at h'
    cases h' with
    | nil => simp [hpart.ne_nil] at hbs
    | @character c bs' => exact absurd ⟨bs', hbs.symm⟩ (hpart.ill_formed c)
    | replaced hpart' h' =>
      obtain ⟨rfl, rfl⟩ := hpart.append_inj hpart' hbs
      rw [ih h']

theorem decodeLossy_eq_ofList_iff {bs : List UInt8} {cs : List Char} :
    decodeLossy bs = String.ofList cs ↔ Decodes bs cs := by
  constructor
  . intro h
    have hdecodes := decodes_decodeLossy bs
    rw [h, String.toList_ofList] at hdecodes
    exact hdecodes
  . intro h
    rw [h.unique (decodes_decodeLossy bs), String.ofList_toList]

-- The three bytes of a character cut off after the second, then its last byte behind a `=`.
example : decodeLossy [0xE2, 0x82, 0x3D, 0xAC] = "\uFFFD=\uFFFD" := by
  decide

theorem decodes_encode (s : String) : Decodes (encode s) s.toList := by
  rw [encode]
  induction s.toList with
  | nil => apply Decodes.nil
  | cons c cs ih =>
    rw [List.flatMap_cons]
    apply Decodes.character ih

theorem decodeLossy_encode (s : String) : decodeLossy (encode s) = s := by
  have h := decodeLossy_eq_ofList_iff.mpr (decodes_encode s)
  rw [h, String.ofList_toList]

theorem Encodes.eq_ofNat_of_mem {c : Char} {bs : List UInt8} {b : UInt8} (h : Encodes c bs)
    (hmem : b ∈ bs) (hb : b.toNat < 0x80) : c = Char.ofNat b.toNat := by
  cases h with
  | one _ hcode =>
    rw [List.mem_singleton] at hmem
    rw [hmem, hcode, Char.ofNat_toNat]
  | two =>
    simp only [List.mem_cons, List.not_mem_nil, or_false] at hmem
    rcases hmem with rfl | rfl
    all_goals omega
  | three =>
    simp only [List.mem_cons, List.not_mem_nil, or_false] at hmem
    rcases hmem with rfl | rfl | rfl
    all_goals omega
  | four =>
    simp only [List.mem_cons, List.not_mem_nil, or_false] at hmem
    rcases hmem with rfl | rfl | rfl | rfl
    all_goals omega

theorem count_utf8EncodeChar (c : Char) {b : UInt8} (hb : b.toNat < 0x80) :
    (String.utf8EncodeChar c).count b = [c].count (Char.ofNat b.toNat) := by
  by_cases hc : c = Char.ofNat b.toNat
  . rw [hc, utf8EncodeChar_of_ascii hb, List.count_singleton_self, List.count_singleton_self]
  . rw [List.count_eq_zero.mpr, List.count_eq_zero.mpr]
    . rw [List.mem_singleton, eq_comm]
      exact hc
    . intro hmem
      exact hc ((encodes_utf8EncodeChar c).eq_ofNat_of_mem hmem hb)

theorem IsMaximalSubpart.not_mem_of_ascii {part rest : List UInt8}
    (h : IsMaximalSubpart part rest) {b : UInt8} (hb : b.toNat < 0x80) : b ∉ part := by
  intro hmem
  -- An ASCII byte is an encoding by itself, so it would be all that there is of the part.
  have hpart : part = [b] := by
    cases h.begins with
    | inl hone =>
      obtain ⟨x, rfl⟩ := List.length_eq_one_iff.mp hone
      rw [List.mem_singleton.mp hmem]
    | inr hbegins =>
      obtain ⟨c, hc⟩ := hbegins
      have hchar := (encodes_utf8EncodeChar c).eq_ofNat_of_mem (hc.subset hmem) hb
      rw [hchar, utf8EncodeChar_of_ascii hb] at hc
      apply hc.eq_of_length_le
      apply List.length_pos_iff.mpr h.ne_nil
  apply h.ill_formed (Char.ofNat b.toNat)
  rw [utf8EncodeChar_of_ascii hb, hpart]
  apply List.prefix_append

theorem Decodes.count_ofNat {bs : List UInt8} {cs : List Char} (h : Decodes bs cs) {b : UInt8}
    (hb : b.toNat < 0x80) : cs.count (Char.ofNat b.toNat) = bs.count b := by
  induction h with
  | nil => rfl
  | @character c bs cs _ ih =>
    rw [List.count_append, count_utf8EncodeChar c hb, ← ih, ← List.count_append]
    rfl
  | @replaced part bs cs hpart _ ih =>
    have hcode : (Char.ofNat b.toNat).toNat = b.toNat := toNat_of_eq_ofNat rfl (by omega)
    have hne : Decoder.replacement ≠ Char.ofNat b.toNat := by
      intro heq
      rw [← heq] at hcode
      have : Decoder.replacement.toNat = 0xFFFD := rfl
      omega
    rw [List.count_cons_of_ne hne, ih, List.count_append,
      List.count_eq_zero.mpr (hpart.not_mem_of_ascii hb), Nat.zero_add]

theorem count_decodeLossy (bs : List UInt8) {b : UInt8} (hb : b.toNat < 0x80) :
    (decodeLossy bs).toList.count (Char.ofNat b.toNat) = bs.count b := by
  apply (decodes_decodeLossy bs).count_ofNat hb

theorem mem_toList_decodeLossy_iff {bs : List UInt8} {b : UInt8} (hb : b.toNat < 0x80) :
    Char.ofNat b.toNat ∈ (decodeLossy bs).toList ↔ b ∈ bs := by
  rw [← List.count_pos_iff, count_decodeLossy bs hb, List.count_pos_iff]

theorem count_encode (s : String) {b : UInt8} (hb : b.toNat < 0x80) :
    (encode s).count b = s.toList.count (Char.ofNat b.toNat) := by
  rw [(decodes_encode s).count_ofNat hb]

theorem isValidUTF8_iff_encode_decodeLossy_eq {bs : List UInt8} :
    bs.toByteArray.IsValidUTF8 ↔ encode (decodeLossy bs) = bs := by
  constructor
  . intro h
    obtain ⟨cs, hcs⟩ := h
    have hbs : encode (String.ofList cs) = bs := by
      rw [← toUTF8_eq_iff, hcs]
      rfl
    rw [← hbs, decodeLossy_encode]
  . intro h
    rw [← toUTF8_eq_iff] at h
    rw [← h]
    apply String.isValidUTF8

end KeyValue.Text.Utf8
