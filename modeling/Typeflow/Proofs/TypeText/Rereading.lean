import Typeflow.Proofs.Text.Idempotence
import Typeflow.Proofs.TypeText.Printing

/-!
Types that are read, printed and read again. The names of a type that is read are normal forms,
and these are stable. But a normal form need not be a name: some letters decompose to a letter and
a mark, and then the printed form has the mark as a sign by itself, which no written type has. So
the printed form is read again exactly if every name is still one token, and then as the same
type.
-/

namespace Typeflow

open Text CodeSet

namespace TypeText

variable {text : Text} {lexemes : List Lexeme} {codes : List Nat} {source : Text} {ty : Ty}

def shown (text : Text) : List Lexeme := (tokens text).filterMap Token.lexeme?

theorem shown_ofCodes (hcodes : ∀ code ∈ codes, IsScalar code)
    (h : Lexes (withoutMark codes) lexemes) : shown (ofCodes codes) = lexemes := by
  have hshown := lexemes_of_lexes h none
  rw [← tokens_of_glyphs (glyphs_ofCodes hcodes)] at hshown
  have hfiltered := congrArg (List.filterMap id) hshown
  simpa [List.filterMap_map, shown] using hfiltered

theorem Spells.shown_eq {phrase : Phrase} (h : Spells text phrase) :
    shown text = phrase.lexemes := by
  obtain ⟨codes, rfl, hcodes, hlexes⟩ := h
  exact shown_ofCodes (fun code hcode => (hcodes code hcode).1) hlexes

theorem Written.shown_eq (h : Written text lexemes) : shown text = lexemes := by
  obtain ⟨codes, rfl, hcodes, hlexes⟩ := h
  refine shown_ofCodes (fun code hcode => (hcodes code hcode).1) ?_
  rwa [withoutMark_of_ordinary hcodes]

theorem written_shown (h : ∀ code ∈ codes, Ordinary code) :
    Written (ofCodes codes) (shown (ofCodes codes)) := by
  obtain ⟨lexemes, hlexes⟩ := exists_lexes codes
  have hwritten : Written (ofCodes codes) lexemes := ⟨codes, rfl, h, hlexes⟩
  rwa [hwritten.shown_eq]

section Signs

theorem Lexes.mem_of_sign (h : Lexes codes lexemes) {code : Nat} (hsign : .sign code ∈ lexemes) :
    code ∈ codes := by
  induction h with
  | done => cases hsign
  | blank _ _ ih => exact List.mem_cons_of_mem _ (ih hsign)
  | name _ _ _ _ ih =>
    rcases List.mem_cons.mp hsign with heq | hsign
    · cases heq
    · exact List.mem_cons_of_mem _ (List.mem_append_right _ (ih hsign))
  | sign _ _ _ ih =>
    rcases List.mem_cons.mp hsign with heq | hsign
    · cases heq
      exact List.mem_cons_self
    · exact List.mem_cons_of_mem _ (ih hsign)

/-- Characters without blanks and signs are one name. -/
theorem Lexes.exists_name_of_no_sign (h : Lexes codes lexemes) (hne : codes ≠ [])
    (hblank : ∀ code ∈ codes, ¬ Blank code) (hsign : ∀ code, .sign code ∉ lexemes) :
    ∃ first more, codes = first :: more ∧ NameStart first ∧ ∀ code ∈ more, NamePart code := by
  cases h with
  | done => exact absurd rfl hne
  | blank hcode _ => exact absurd hcode (hblank _ List.mem_cons_self)
  | sign _ _ _ => exact absurd List.mem_cons_self (hsign _)
  | @name first more rest _ hfirst hmore hrest hlexes =>
    refine ⟨first, more ++ rest, rfl, hfirst, ?_⟩
    -- What follows the name could only begin with a blank or a sign.
    cases hlexes with
    | done => simpa using hmore
    | blank hcode _ =>
      exact absurd hcode (hblank _ (List.mem_cons_of_mem _ (List.mem_append_right _
        List.mem_cons_self)))
    | name hnext _ _ _ => exact absurd hnext.namePart (hrest _ rfl)
    | sign _ _ _ => exact absurd (List.mem_cons_of_mem _ List.mem_cons_self) (hsign _)

theorem Phrase.delimiter_of_mem_lexemesAfter {more : List Phrase} {comma : Bool} {code : Nat}
    (hmore : ∀ p ∈ more, .sign code ∈ p.lexemes → code ∈ delimiters)
    (h : .sign code ∈ lexemesAfter more comma) : code ∈ delimiters := by
  induction more with
  | nil =>
    cases comma <;> simp [lexemesAfter, trailing, Lexeme.ofChar] at h
    subst h
    decide
  | cons first more ih =>
    obtain ⟨hfirst, hmore⟩ := List.forall_mem_cons.mp hmore
    rw [lexemesAfter, List.mem_cons, List.mem_append] at h
    rcases h with heq | hsign | hsign
    · cases heq
      decide
    · exact hfirst hsign
    · exact ih hmore hsign

theorem Phrase.delimiter_of_sign (phrase : Phrase) {code : Nat}
    (h : .sign code ∈ phrase.lexemes) :
    code ∈ delimiters := by
  have harrow : .sign code ∈ arrow → code ∈ delimiters := by
    simp only [arrow, Lexeme.ofChar, List.mem_cons, Lexeme.sign.injEq, List.not_mem_nil, or_false]
    rintro (rfl | rfl | rfl) <;> decide
  induction phrase using Phrase.inductionOn with
  | name text => cases List.mem_singleton.mp h
  | mark =>
    simp only [lexemes, Lexeme.ofChar, List.mem_cons, Lexeme.sign.injEq, reduceCtorEq,
      List.not_mem_nil, or_false, false_or] at h
    rcases h with rfl | rfl <;> decide
  | thunk result ih =>
    rw [lexemes, List.mem_cons, List.mem_append] at h
    rcases h with heq | hsign | hsign
    · cases heq
      decide
    · exact harrow hsign
    · exact ih hsign
  | function first more comma result hfirst hmore hresult =>
    rw [lexemes, List.mem_cons, List.mem_append, List.mem_append, List.mem_append] at h
    rcases h with heq | hsign | hsign | hsign | hsign
    · cases heq
      decide
    · exact hfirst hsign
    · exact delimiter_of_mem_lexemesAfter hmore hsign
    · exact harrow hsign
    · exact hresult hsign

end Signs

section Names

variable {name : Identifier}

/-- A letter or an underscore followed by parts of names is one token. -/
theorem isToken_of_codes {first : Nat} {more : List Nat} (hfirst : NameStart first)
    (hmore : ∀ code ∈ more, NamePart code) :
    (Identifier.mk (ofCodes (first :: more))).IsToken := by
  have hordinary : ∀ code ∈ first :: more, Ordinary code :=
    List.forall_mem_cons.mpr
      ⟨hfirst.namePart.solid.1, fun code hcode => (hmore code hcode).solid.1⟩
  have hglyphs := glyphs_ofCodes fun code hcode => (hordinary code hcode).1
  have hclean : ∀ code ∈ first :: more, problemOf (.scalar code) = none := fun code hcode =>
    problemOf_eq_none_iff.mpr ⟨code, (hordinary code hcode).2.1, rfl⟩
  have hfirstNote : noted none (some (.scalar first)) = none := by
    simp [noted, hclean first List.mem_cons_self]
  have hnotes : notedAll none (more.map Glyph.scalar) = none := by
    refine notedAll_eq_none_iff.mpr ⟨rfl, fun glyph hglyph => ?_⟩
    obtain ⟨code, hcode, rfl⟩ := List.mem_map.mp hglyph
    exact hclean code (List.mem_cons_of_mem _ hcode)
  have hblank : isBlank (.scalar first) = false := by
    rw [← Bool.not_eq_true, isBlank_scalar]
    exact not_blank_of_nameStart hfirst
  have hstart := startsName_scalar.mpr hfirst
  have hcontinues : ∀ glyph ∈ more.map Glyph.scalar, continuesName glyph = true := by
    intro glyph hglyph
    obtain ⟨code, hcode, rfl⟩ := List.mem_map.mp hglyph
    exact continuesName_scalar.mpr (hmore code hcode)
  have hrest := tokensFrom_append (more.map Glyph.scalar) [] none
  rw [List.append_nil, hnotes] at hrest
  rw [Identifier.IsToken, tokens_of_glyphs hglyphs, withoutMark_of_ordinary hordinary,
    List.map_cons, tokensFrom]
  simp only [hblank, hstart, if_true, Bool.false_eq_true, if_false, hfirstNote,
    List.takeWhile_eq_self_iff.mpr hcontinues, List.dropWhile_eq_nil_iff.mpr hcontinues, hrest]
  rw [← List.map_cons, ofGlyphs_scalar]
  rfl

/-- A name that is a part of a printed type stands in its phrase. -/
theorem mem_lexemes_ofTy (hname : name ∈ ty.names) :
    .name name.text ∈ (Phrase.ofTy ty).lexemes := by
  induction ty using Ty.inductionOn with
  | name n =>
    rw [List.mem_singleton.mp hname]
    exact List.mem_cons_self
  | var v => cases hname
  | fn params result ihp ihr =>
    rw [Ty.names, List.mem_append, Ty.mem_namesList] at hname
    cases params with
    | nil =>
      rcases hname with ⟨p, hp, -⟩ | hname
      · cases hp
      · simp [Phrase.ofTy, Phrase.lexemes, ihr hname]
    | cons first more =>
      rw [Phrase.ofTy, Phrase.lexemes]
      simp only [List.mem_cons, List.mem_append]
      rcases hname with ⟨p, hp, hname⟩ | hname
      · rcases List.mem_cons.mp hp with rfl | hmore
        · exact Or.inr (Or.inl (ihp p hp hname))
        · refine Or.inr (Or.inr (Or.inl (Phrase.mem_lexemesAfter ?_ (ihp p hp hname))))
          rw [Phrase.ofTys_eq_map]
          exact List.mem_map_of_mem hmore
      · exact Or.inr (Or.inr (Or.inr (Or.inr (ihr hname))))
  | unresolvable => cases hname
  | absent => cases hname

/-- The ordinary characters that are no blanks. -/
def solid : Nat :=
  ofRanges [(0x1, 0x8), (0xb, 0xc), (0xe, 0x1f), (0x21, 0xd7ff), (0xe000, 0xfefe),
    (0xff00, 0x10ffff)]

theorem testBit_solid {code : Nat} :
    solid.testBit code = true ↔ Ordinary code ∧ ¬ Blank code := by
  simp only [solid, testBit_ofRanges, Ranges.contains, List.any_cons, List.any_nil, Bool.or_false,
    Bool.or_eq_true, Bool.and_eq_true, decide_eq_true_eq, Ordinary, IsScalar, Blank]
  omega

theorem produced_solid :
    Normal.produced &&& solid = Normal.produced ∧ solid &&& scalars = solid := by
  decide +kernel

/-- The names of a type that is read are spelled by ordinary characters, without blanks, and are
in normal form. -/
theorem exists_codes_of_read (h : parse source = .ok ty) (hname : name ∈ ty.names) :
    ∃ codes, name.text = ofCodes codes ∧ (∀ code ∈ codes, Ordinary code ∧ ¬ Blank code) ∧
      name.text.normalize = name.text := by
  obtain ⟨hproduced, hscalars⟩ := produced_solid
  obtain ⟨phrase, ⟨codes, -, -, hlexes⟩, rfl⟩ := parse_eq_ok_iff_spells.mp h
  obtain ⟨text, htext, rfl⟩ := phrase.exists_lexeme_of_name name hname
  obtain ⟨part, -, rfl, hpart, -⟩ := hlexes.exists_spelling htext
  have hsolid : ∀ code ∈ part, solid.testBit code = true := fun code hcode =>
    testBit_solid.mpr (hpart code hcode).solid
  obtain ⟨normal, hnormal, hcodes, hstable⟩ := exists_normal_codes hproduced hscalars hsolid
  refine ⟨normal, hnormal, fun code hcode => testBit_solid.mp (hcodes code hcode), ?_⟩
  rw [Identifier.ofText, hnormal, hstable]

/-- A delimiter is spelled by itself. -/
theorem not_delimiter_of_legible (hlegible : name.Legible) (htext : name.text = ofCodes codes)
    {code : Nat} (hcode : code ∈ codes) : code ∉ delimiters := by
  have hbyte : ∀ code ∈ delimiters, ∃ byte ∈ encode code, byte.toNat = code := by decide
  intro hdelimiter
  obtain ⟨byte, hmem, heq⟩ := hbyte code hdelimiter
  refine hlegible.2 byte ?_ (heq ▸ hdelimiter)
  rw [htext]
  exact List.mem_flatMap.mpr ⟨code, hcode, hmem⟩

theorem mem_expand {spelled : Text → List Lexeme} {lexeme : Lexeme}
    (hname : .name text ∈ lexemes) (h : lexeme ∈ spelled text) :
    lexeme ∈ expand spelled lexemes :=
  List.mem_flatMap.mpr ⟨.name text, hname, h⟩

/-- If the printed form of a type that was read is read again, every name is one token. -/
theorem isToken_of_reread {ty' : Ty} (h : parse source = .ok ty)
    (hagain : parse ty.render = .ok ty') : ∀ name ∈ ty.names, name.IsToken := by
  obtain ⟨phrase, hspells, -⟩ := parse_eq_ok_iff_spells.mp hagain
  have hmark : Written (utf8 "unresolvable") (shown (utf8 "unresolvable")) := by
    rw [written_mark.shown_eq]
    exact written_mark
  have hlexemes : phrase.lexemes = expand shown (Phrase.ofTy ty).lexemes := by
    rw [← hspells.shown_eq]
    refine (written_render (parse_closed source ty h) hmark fun name hname => ?_).shown_eq
    obtain ⟨codes, htext, hcodes, -⟩ := exists_codes_of_read h hname
    rw [htext]
    exact written_shown fun code hcode => (hcodes code hcode).1
  intro name hname
  obtain ⟨codes, htext, hcodes, -⟩ := exists_codes_of_read h hname
  have hlegible := (parse_legible source ty h).2 name hname
  obtain ⟨lexemes, hlexes⟩ := exists_lexes codes
  have hwritten : Written name.text lexemes :=
    ⟨codes, htext, fun code hcode => (hcodes code hcode).1, hlexes⟩
  have hne : codes ≠ [] := by
    rintro rfl
    exact hlegible.1 htext
  -- A sign in a name would be one in the phrase, so a delimiter; but names have none.
  have hsign : ∀ code, .sign code ∉ lexemes := by
    intro code hmem
    refine not_delimiter_of_legible hlegible htext (hlexes.mem_of_sign hmem) ?_
    apply phrase.delimiter_of_sign
    rw [hlexemes]
    rw [← hwritten.shown_eq] at hmem
    exact mem_expand (mem_lexemes_ofTy hname) hmem
  obtain ⟨first, more, rfl, hfirst, hmore⟩ :=
    hlexes.exists_name_of_no_sign hne (fun code hcode => (hcodes code hcode).2) hsign
  obtain ⟨_⟩ := name
  obtain rfl : _ = _ := htext
  exact isToken_of_codes hfirst hmore

end Names

theorem parse_of_toOption (h : (parse source).toOption = some ty) : parse source = .ok ty := by
  cases hread : parse source with
  | error error =>
    rw [hread] at h
    cases h
  | ok found =>
    rw [hread] at h
    cases h
    rfl

end TypeText

/-- The printed form of a type that was read is read again exactly if every name in the type is
still one token, and then it is read as the same type. -/
theorem parse_render_of_parse {source : Text} {ty : Ty} (h : TypeText.parse source = .ok ty)
    (ty' : Ty) : TypeText.parse ty.render = .ok ty' ↔
      ty' = ty ∧ ∀ name ∈ ty.names, name.IsToken := by
  have hclosed := TypeText.parse_closed source ty h
  have hagain : (∀ name ∈ ty.names, name.IsToken) → TypeText.parse ty.render = .ok ty := by
    intro htokens
    refine TypeText.parse_eq_ok_iff_spells.mpr ⟨.ofTy ty, ?_, ?_⟩
    · exact TypeText.spells_render hclosed htokens
    · refine TypeText.Phrase.type_ofTy hclosed fun name hname => ?_
      obtain ⟨_, -, -, hstable⟩ := TypeText.exists_codes_of_read h hname
      exact hstable
  constructor
  · intro hread
    have htokens := TypeText.isToken_of_reread h hread
    exact ⟨Except.ok.inj (hread.symm.trans (hagain htokens)), htokens⟩
  · rintro ⟨rfl, htokens⟩
    exact hagain htokens

/-- Conjoining letters are printed as a syllable, and the sign for a unit as the letter. -/
theorem parse_render_of_parse_of_composed_name :
    let source : Text :=
      [0x28, 0xe1, 0x84, 0x80, 0xe1, 0x85, 0xa1, 0x29, 0x2d, 0x3e, 0xe2, 0x84, 0xab]
    let ty : Ty := .fn [.name ⟨[0xea, 0xb0, 0x80]⟩] (.name ⟨[0xc3, 0x85]⟩)
    TypeText.parse source = .ok ty ∧ TypeText.parse ty.render = .ok ty := by
  intro source ty
  have hfound : (TypeText.parse source).toOption = some ty ∧ ∀ name ∈ ty.names, name.IsToken := by
    decide +kernel
  have hread := TypeText.parse_of_toOption hfound.1
  exact ⟨hread, (parse_render_of_parse hread ty).mpr ⟨rfl, hfound.2⟩⟩

/-- The letter U+0958 is read as a name, but what is printed for it is not read again: its normal
form is a letter and a mark. -/
theorem printed_letter_is_refused :
    let ty : Ty := .name ⟨[0xe0, 0xa4, 0x95, 0xe0, 0xa4, 0xbc]⟩
    TypeText.parse [0xe0, 0xa5, 0x98] = .ok ty ∧ ∀ ty', TypeText.parse ty.render ≠ .ok ty' := by
  intro ty
  have hfound : (TypeText.parse [0xe0, 0xa5, 0x98]).toOption = some ty ∧
      (TypeText.parse ty.render).toOption = none := by
    decide +kernel
  refine ⟨TypeText.parse_of_toOption hfound.1, fun ty' hread => ?_⟩
  have hrefused := hfound.2
  rw [hread] at hrefused
  cases hrefused

end Typeflow
