import Typeflow.Text.Glyph

/-!
The encoding of characters. A code point that is not a surrogate is written as one to four bytes,
and reading these bytes gives the code point back, whatever follows. The reader takes no other
bytes for a character. So the glyphs of a text are all characters exactly if the text is the
encoding of code points, and then they are these code points.
-/

namespace Typeflow

/-- The code points that are characters: all but the surrogates. -/
def IsScalar (code : Nat) : Prop := code < 0xd800 ∨ 0xdfff < code ∧ code < 0x110000

instance (code : Nat) : Decidable (IsScalar code) := inferInstanceAs (Decidable (_ ∨ _))

/-- The text that spells these characters. -/
def Text.ofCodes (codes : List Nat) : Text := codes.flatMap Text.encode

theorem takeWhile_append_of_head {α : Type} {p : α → Bool} {front rest : List α}
    (hfront : ∀ x ∈ front, p x = true) (hrest : ∀ x ∈ rest.head?, p x = false) :
    (front ++ rest).takeWhile p = front := by
  rw [List.takeWhile_append_of_pos hfront]
  cases rest with
  | nil => simp
  | cons x rest => simp [hrest x rfl]

namespace Glyph

open Text

variable {lead : UInt8} {rest more : Text} {code taken : Nat}

theorem toNat_toUInt8 {n : Nat} (h : n < 256) : n.toUInt8.toNat = n := by
  simpa using h

theorem toUInt8_eq_iff {n : Nat} {byte : UInt8} (h : n < 256) :
    n.toUInt8 = byte ↔ n = byte.toNat := by
  rw [← UInt8.toNat_inj, toNat_toUInt8 h]

theorem width?_eq_some_iff {width : Nat} :
    width? lead = some width ↔ width = 1 ∧ lead.toNat < 0x80 ∨
      width = 2 ∧ 0xc2 ≤ lead.toNat ∧ lead.toNat < 0xe0 ∨
      width = 3 ∧ 0xe0 ≤ lead.toNat ∧ lead.toNat < 0xf0 ∨
      width = 4 ∧ 0xf0 ≤ lead.toNat ∧ lead.toNat < 0xf5 := by
  unfold width?
  simp only [UInt8.lt_iff_toNat_lt]
  repeat' split
  all_goals simp_all
  all_goals omega

theorem continues_iff {byte : UInt8} :
    continues byte = true ↔ 0x80 ≤ byte.toNat ∧ byte.toNat ≤ 0xbf := by
  simp [continues, UInt8.le_iff_toNat_le]

theorem mem_secondRange_iff {byte : UInt8} :
    ((secondRange lead).1 ≤ byte ∧ byte ≤ (secondRange lead).2) ↔
      (0x80 ≤ byte.toNat ∧ byte.toNat ≤ 0xbf) ∧ (lead.toNat = 0xe0 → 0xa0 ≤ byte.toNat) ∧
        (lead.toNat = 0xed → byte.toNat ≤ 0x9f) ∧ (lead.toNat = 0xf0 → 0x90 ≤ byte.toNat) ∧
        (lead.toNat = 0xf4 → byte.toNat ≤ 0x8f) := by
  have hlead : ∀ n : UInt8, lead = n ↔ lead.toNat = n.toNat := fun n => UInt8.toNat_inj.symm
  unfold secondRange
  simp only [hlead, UInt8.le_iff_toNat_le]
  repeat' split
  all_goals simp_all
  all_goals omega

/-- What is read as a character: one byte, or a first byte and one to three that continue it. -/
theorem character?_eq_some_iff :
    character? lead rest = some (code, taken) ↔
      (lead.toNat < 0x80 ∧ code = lead.toNat ∧ taken = 0) ∨
      (∃ b tail, rest = b :: tail ∧ (0xc2 ≤ lead.toNat ∧ lead.toNat < 0xe0) ∧
        continues b = true ∧ code = lead.toNat % 32 * 64 + payload b ∧ taken = 1) ∨
      (∃ b c tail, rest = b :: c :: tail ∧ (0xe0 ≤ lead.toNat ∧ lead.toNat < 0xf0) ∧
        ((secondRange lead).1 ≤ b ∧ b ≤ (secondRange lead).2) ∧ continues c = true ∧
        code = lead.toNat % 16 * 4096 + payload b * 64 + payload c ∧ taken = 2) ∨
      ∃ b c d tail, rest = b :: c :: d :: tail ∧ (0xf0 ≤ lead.toNat ∧ lead.toNat < 0xf5) ∧
        ((secondRange lead).1 ≤ b ∧ b ≤ (secondRange lead).2) ∧ continues c = true ∧
        continues d = true ∧
        code = lead.toNat % 8 * 262144 + payload b * 4096 + payload c * 64 + payload d ∧
        taken = 3 := by
  constructor
  · intro h
    unfold character? at h
    split at h
    · rename_i hwidth
      have hlead := width?_eq_some_iff.mp hwidth
      cases h
      exact Or.inl ⟨by omega, rfl, rfl⟩
    · rename_i b tail hwidth
      have hlead := width?_eq_some_iff.mp hwidth
      split at h
      · rename_i hb
        cases h
        exact Or.inr (Or.inl ⟨b, tail, rfl, by omega, hb, rfl, rfl⟩)
      · cases h
    · rename_i b c tail hwidth
      have hlead := width?_eq_some_iff.mp hwidth
      split at h
      · rename_i hbytes
        simp only [Bool.and_eq_true, decide_eq_true_eq] at hbytes
        cases h
        exact Or.inr (Or.inr (Or.inl ⟨b, c, tail, rfl, by omega, hbytes.1, hbytes.2, rfl, rfl⟩))
      · cases h
    · rename_i b c d tail hwidth
      have hlead := width?_eq_some_iff.mp hwidth
      split at h
      · rename_i hbytes
        simp only [Bool.and_eq_true, decide_eq_true_eq] at hbytes
        cases h
        exact Or.inr (Or.inr (Or.inr
          ⟨b, c, d, tail, rfl, by omega, hbytes.1.1, hbytes.1.2, hbytes.2, rfl, rfl⟩))
      · cases h
    · cases h
  · intro h
    rcases h with ⟨hlead, rfl, rfl⟩ | ⟨b, tail, rfl, hlead, hb, rfl, rfl⟩ |
      ⟨b, c, tail, rfl, hlead, hb, hc, rfl, rfl⟩ |
        ⟨b, c, d, tail, rfl, hlead, hb, hc, hd, rfl, rfl⟩
    · have hwidth : width? lead = some 1 := width?_eq_some_iff.mpr (by omega)
      simp [character?, hwidth]
    · have hwidth : width? lead = some 2 := width?_eq_some_iff.mpr (by omega)
      simp [character?, hwidth, hb]
    · have hwidth : width? lead = some 3 := width?_eq_some_iff.mpr (by omega)
      simp [character?, hwidth, hb, hc]
    · have hwidth : width? lead = some 4 := width?_eq_some_iff.mpr (by omega)
      simp [character?, hwidth, hb, hc, hd]

/-- The bytes of a character are read as the character, whatever follows. -/
theorem character?_of_encode (hcode : IsScalar code) (h : encode code = lead :: more)
    (rest : Text) : character? lead (more ++ rest) = some (code, more.length) := by
  rw [character?_eq_some_iff]
  unfold IsScalar at hcode
  unfold encode at h
  split at h
  · cases h
    have hlead := toNat_toUInt8 (n := code) (by omega)
    exact Or.inl ⟨by omega, hlead.symm, rfl⟩
  · split at h
    · cases h
      have hlead := toNat_toUInt8 (n := 0xc0 + code / 64) (by omega)
      have hb := toNat_toUInt8 (n := 0x80 + code % 64) (by omega)
      refine Or.inr (Or.inl ⟨_, rest, rfl, by omega, continues_iff.mpr (by omega), ?_, rfl⟩)
      rw [payload]
      omega
    · split at h
      · cases h
        have hlead := toNat_toUInt8 (n := 0xe0 + code / 4096) (by omega)
        have hb := toNat_toUInt8 (n := 0x80 + code / 64 % 64) (by omega)
        have hc := toNat_toUInt8 (n := 0x80 + code % 64) (by omega)
        refine Or.inr (Or.inr (Or.inl ⟨_, _, rest, rfl, by omega,
          mem_secondRange_iff.mpr (by omega), continues_iff.mpr (by omega), ?_, rfl⟩))
        rw [payload, payload]
        omega
      · cases h
        have hlead := toNat_toUInt8 (n := 0xf0 + code / 262144) (by omega)
        have hb := toNat_toUInt8 (n := 0x80 + code / 4096 % 64) (by omega)
        have hc := toNat_toUInt8 (n := 0x80 + code / 64 % 64) (by omega)
        have hd := toNat_toUInt8 (n := 0x80 + code % 64) (by omega)
        refine Or.inr (Or.inr (Or.inr ⟨_, _, _, rest, rfl, by omega,
          mem_secondRange_iff.mpr (by omega), continues_iff.mpr (by omega),
          continues_iff.mpr (by omega), ?_, rfl⟩))
        rw [payload, payload, payload]
        omega

/-- What is read as a character is the encoding of that character. -/
theorem encode_of_character? (h : character? lead rest = some (code, taken)) :
    IsScalar code ∧ taken ≤ rest.length ∧ encode code = lead :: rest.take taken := by
  unfold IsScalar encode
  rcases character?_eq_some_iff.mp h with ⟨hlead, rfl, rfl⟩ |
    ⟨b, tail, rfl, hlead, hb, hcode, rfl⟩ | ⟨b, c, tail, rfl, hlead, hb, hc, hcode, rfl⟩ |
    ⟨b, c, d, tail, rfl, hlead, hb, hc, hd, hcode, rfl⟩
  · rw [if_pos hlead]
    refine ⟨by omega, Nat.zero_le _, ?_⟩
    simp
  · rw [continues_iff] at hb
    rw [payload] at hcode
    have hfirst : (0xc0 + code / 64).toUInt8 = lead := (toUInt8_eq_iff (by omega)).mpr (by omega)
    have hsecond : (0x80 + code % 64).toUInt8 = b := (toUInt8_eq_iff (by omega)).mpr (by omega)
    rw [if_neg (by omega), if_pos (by omega), hfirst, hsecond]
    exact ⟨by omega, by simp, rfl⟩
  · rw [mem_secondRange_iff] at hb
    rw [continues_iff] at hc
    rw [payload, payload] at hcode
    have hfirst : (0xe0 + code / 4096).toUInt8 = lead :=
      (toUInt8_eq_iff (by omega)).mpr (by omega)
    have hsecond : (0x80 + code / 64 % 64).toUInt8 = b :=
      (toUInt8_eq_iff (by omega)).mpr (by omega)
    have hthird : (0x80 + code % 64).toUInt8 = c := (toUInt8_eq_iff (by omega)).mpr (by omega)
    rw [if_neg (by omega), if_neg (by omega), if_pos (by omega), hfirst, hsecond, hthird]
    exact ⟨by omega, by simp, rfl⟩
  · rw [mem_secondRange_iff] at hb
    rw [continues_iff] at hc hd
    rw [payload, payload, payload] at hcode
    have hfirst : (0xf0 + code / 262144).toUInt8 = lead :=
      (toUInt8_eq_iff (by omega)).mpr (by omega)
    have hsecond : (0x80 + code / 4096 % 64).toUInt8 = b :=
      (toUInt8_eq_iff (by omega)).mpr (by omega)
    have hthird : (0x80 + code / 64 % 64).toUInt8 = c :=
      (toUInt8_eq_iff (by omega)).mpr (by omega)
    have hfourth : (0x80 + code % 64).toUInt8 = d := (toUInt8_eq_iff (by omega)).mpr (by omega)
    rw [if_neg (by omega), if_neg (by omega), if_neg (by omega), hfirst, hsecond, hthird, hfourth]
    exact ⟨by omega, by simp, rfl⟩

theorem readFrom_append (front rest : Text) :
    readFrom front.length (front ++ rest) = readFrom 0 rest := by
  induction front with
  | nil => rfl
  | cons byte front ih => exact ih

/-- The glyphs of a text give the text back, and those that are characters are no surrogates. -/
theorem ofGlyphs_readFrom (skipped : Nat) (text : Text) :
    ofGlyphs (readFrom skipped text) = text.drop skipped ∧
      ∀ code, scalar code ∈ readFrom skipped text → IsScalar code := by
  fun_induction readFrom skipped text with
  | case1 => simp [ofGlyphs]
  | case2 skipped byte rest ih => exact ih
  | case3 lead rest code taken hread ih =>
    obtain ⟨hcode, htaken, hencode⟩ := encode_of_character? hread
    obtain ⟨htext, hscalars⟩ := ih
    constructor
    · show encode code ++ ofGlyphs (readFrom taken rest) = lead :: rest
      rw [htext, hencode, List.cons_append, List.take_append_drop]
    · intro other hother
      rcases List.mem_cons.mp hother with heq | hother
      · cases heq
        exact hcode
      · exact hscalars other hother
  | case4 lead rest hread ih =>
    obtain ⟨htext, hscalars⟩ := ih
    constructor
    · show lead :: ofGlyphs (readFrom 0 rest) = lead :: rest
      rw [htext, List.drop_zero]
    · intro other hother
      rcases List.mem_cons.mp hother with heq | hother
      · cases heq
      · exact hscalars other hother

end Glyph

namespace Text

variable {text : Text} {codes : List Nat}

theorem encode_ne_nil (code : Nat) : encode code ≠ [] := by
  unfold encode
  repeat' split
  all_goals simp

theorem ofCodes_cons (code : Nat) (codes : List Nat) :
    ofCodes (code :: codes) = encode code ++ ofCodes codes := rfl

theorem glyphs_ofCodes (h : ∀ code ∈ codes, IsScalar code) :
    (ofCodes codes).glyphs = codes.map Glyph.scalar := by
  induction codes with
  | nil => rfl
  | cons code rest ih =>
    obtain ⟨hcode, hrest⟩ := List.forall_mem_cons.mp h
    obtain ⟨lead, more, hencode⟩ := List.exists_cons_of_ne_nil (encode_ne_nil code)
    have hread := Glyph.character?_of_encode hcode hencode (ofCodes rest)
    rw [ofCodes_cons, hencode, List.cons_append, glyphs, Glyph.readFrom, hread]
    simp only
    rw [Glyph.readFrom_append, List.map_cons]
    exact congrArg _ (ih hrest)

theorem ofGlyphs_glyphs (text : Text) : ofGlyphs text.glyphs = text :=
  (Glyph.ofGlyphs_readFrom 0 text).1

theorem ofGlyphs_scalar (codes : List Nat) :
    ofGlyphs (codes.map Glyph.scalar) = ofCodes codes := by
  rw [ofGlyphs, List.flatMap_map]
  rfl

/-- A text whose glyphs are characters spells these characters, and none of them is a
surrogate. -/
theorem eq_ofCodes_of_glyphs (h : text.glyphs = codes.map Glyph.scalar) :
    text = ofCodes codes ∧ ∀ code ∈ codes, IsScalar code := by
  have hread := Glyph.ofGlyphs_readFrom 0 text
  have hglyphs : Glyph.readFrom 0 text = codes.map Glyph.scalar := h
  rw [hglyphs] at hread
  constructor
  · rw [← ofGlyphs_glyphs text, h, ofGlyphs_scalar]
  · intro code hcode
    exact hread.2 code (List.mem_map_of_mem hcode)

end Text

end Typeflow
