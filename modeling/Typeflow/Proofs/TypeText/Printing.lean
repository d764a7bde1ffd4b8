import Typeflow.Proofs.TypeText.Names

/-!
Printed types are read again. What a printed type spells is the phrase of the type, without a
comma after the last parameter; what stands between its names ends every name. So the lexemes of
the text are those of the phrase, with the lexemes of each name in the place of the name. If every
name is one token in normal form the text is read as the type.
-/

namespace Typeflow

open Text

/-- The name is one token of a written type. -/
def Identifier.IsToken (name : Identifier) : Prop :=
  TypeText.tokens name.text = [⟨.name, name.text, none⟩, ⟨.stop, [], none⟩]

instance (name : Identifier) : Decidable name.IsToken := inferInstanceAs (Decidable (_ = _))

namespace TypeText

variable {text rest : Text} {lexemes more : List Lexeme}

/-- The signs of printed types. -/
def printedSigns : List Nat := [0x28, 0x29, 0x2c, 0x2d, 0x3c, 0x3e]

/-- A character that can stand anywhere in a text. -/
def Ordinary (code : Nat) : Prop := IsScalar code ∧ code ≠ 0 ∧ code ≠ 0xfeff

instance (code : Nat) : Decidable (Ordinary code) := inferInstanceAs (Decidable (_ ∧ _))

def isSolid (range : Nat × Nat) : Bool :=
  [(0x21, 0xd7ff), (0xe000, 0xfefe), (0xff00, 0x10ffff)].any fun (low, high) =>
    Nat.ble low range.1 && Nat.ble range.2 high

theorem solid_of_isSolid {code : Nat} {range : Nat × Nat} (h : isSolid range = true)
    (hlow : range.1 ≤ code) (hhigh : code ≤ range.2) : Ordinary code ∧ ¬ Blank code := by
  simp only [isSolid, List.any_cons, List.any_nil, Bool.or_eq_true, Bool.and_eq_true,
    Nat.ble_eq, Bool.false_eq_true, or_false] at h
  unfold Ordinary IsScalar Blank
  omega

/-- What stands in a name is no blank and can stand anywhere. -/
theorem NamePart.solid {code : Nat} (h : NamePart code) : Ordinary code ∧ ¬ Blank code := by
  have hranges : ((0x5f, 0x5f) :: (letterRanges ++ digitRanges)).all isSolid = true := by
    decide +kernel
  have hcontains :
      Ranges.contains ((0x5f, 0x5f) :: (letterRanges ++ digitRanges)) code = true := by
    rw [Ranges.contains, List.any_cons, List.any_append, Bool.or_eq_true, Bool.or_eq_true]
    refine h.imp_left ?_
    rintro rfl
    rfl
  obtain ⟨range, hrange, hbounds⟩ := List.any_eq_true.mp hcontains
  simp only [Bool.and_eq_true, decide_eq_true_eq] at hbounds
  exact solid_of_isSolid (List.all_eq_true.mp hranges range hrange) hbounds.1 hbounds.2

theorem withoutMark_of_ordinary {codes : List Nat} (h : ∀ code ∈ codes, Ordinary code) :
    withoutMark codes = codes := by
  unfold withoutMark
  split
  · exact absurd rfl (h 0xfeff List.mem_cons_self).2.2
  · rfl

/-- Lexemes go together where no name goes on. -/
theorem Lexes.append {front codes : List Nat} (h : Lexes front lexemes)
    (hcodes : Lexes codes more) (hbreak : ∀ code ∈ codes.head?, ¬ NamePart code) :
    Lexes (front ++ codes) (lexemes ++ more) := by
  induction h with
  | done => exact hcodes
  | blank hblank _ ih => exact .blank hblank ih
  | @name first more rest _ hfirst hmore hrest _ ih =>
    rw [List.cons_append, List.append_assoc]
    refine .name hfirst hmore ?_ ih
    -- Only the last name meets what is appended.
    cases rest with
    | nil => exact hbreak
    | cons code rest => exact hrest
  | sign hblank hstart _ ih => exact .sign hblank hstart ih

/-- The text consists of ordinary characters, and they are divided into these lexemes. -/
def Written (text : Text) (lexemes : List Lexeme) : Prop :=
  ∃ codes, text = ofCodes codes ∧ (∀ code ∈ codes, Ordinary code) ∧ Lexes codes lexemes

namespace Written

theorem nil : Written [] [] := ⟨[], rfl, by simp, .done⟩

theorem not_namePart_of_breaks {codes : List Nat} (h : (ofCodes codes).Breaks) :
    ∀ code ∈ codes.head?, ¬ NamePart code := by
  cases codes with
  | nil => simp
  | cons code codes =>
    intro first hfirst hpart
    cases hfirst
    obtain ⟨lead, tail, hencode⟩ := List.exists_cons_of_ne_nil (encode_ne_nil code)
    rw [ofCodes_cons, hencode] at h
    exact not_delimiter_of_mem_encode (inert_of_namePart hpart).1 (hencode ▸ List.mem_cons_self)
      (h lead rfl)

theorem append (h : Written text lexemes) (hrest : Written rest more) (hbreaks : rest.Breaks) :
    Written (text ++ rest) (lexemes ++ more) := by
  obtain ⟨front, rfl, hfront, hlexes⟩ := h
  obtain ⟨codes, rfl, hcodes, hmore⟩ := hrest
  refine ⟨front ++ codes, by simp [ofCodes], List.forall_mem_append.mpr ⟨hfront, hcodes⟩, ?_⟩
  exact hlexes.append hmore (not_namePart_of_breaks hbreaks)

theorem blank (h : Written rest lexemes) : Written (0x20 :: rest) lexemes := by
  obtain ⟨codes, rfl, hcodes, hlexes⟩ := h
  refine ⟨0x20 :: codes, rfl, List.forall_mem_cons.mpr ⟨by decide, hcodes⟩, ?_⟩
  exact .blank (Or.inr (Or.inr (Or.inr rfl))) hlexes

theorem sign (sign : Char) (hsign : sign.toNat ∈ printedSigns) (h : Written rest lexemes) :
    Written (encode sign.toNat ++ rest) (.ofChar sign :: lexemes) := by
  have hsigns : ∀ code ∈ printedSigns,
      isSolid (code, code) = true ∧ code ∈ delimiters := by decide
  obtain ⟨hsolid, hdelimiter⟩ := hsigns sign.toNat hsign
  obtain ⟨hordinary, hblank⟩ := solid_of_isSolid hsolid (Nat.le_refl _) (Nat.le_refl _)
  have hstart : ¬ NameStart sign.toNat := fun hstart =>
    (inert_of_namePart hstart.namePart).1.2 hdelimiter
  obtain ⟨codes, rfl, hcodes, hlexes⟩ := h
  exact ⟨sign.toNat :: codes, rfl, List.forall_mem_cons.mpr ⟨hordinary, hcodes⟩,
    .sign hblank hstart hlexes⟩

theorem spells {phrase : Phrase} (h : Written text phrase.lexemes) : Spells text phrase := by
  obtain ⟨codes, rfl, hcodes, hlexes⟩ := h
  refine ⟨codes, rfl, fun code hcode => ?_, ?_⟩
  · obtain ⟨hscalar, hzero, -⟩ := hcodes code hcode
    exact ⟨hscalar, hzero⟩
  · rwa [withoutMark_of_ordinary hcodes]

end Written

theorem Lexes.exists_name {codes : List Nat} (h : Lexes codes [.name text]) :
    ∃ first more, text = ofCodes (first :: more) ∧ NameStart first ∧
      ∀ code ∈ more, NamePart code := by
  generalize hlexemes : [Lexeme.name text] = lexemes at h
  induction h with
  | done => cases hlexemes
  | blank _ _ ih => exact ih hlexemes
  | @name first more _ _ hfirst hmore _ _ _ =>
    cases hlexemes
    exact ⟨first, more, rfl, hfirst, hmore⟩
  | sign _ _ _ _ => cases hlexemes

theorem written_of_isToken {name : Identifier} (h : name.IsToken) :
    Written name.text [.name name.text] := by
  have htokens : tokens name.text = [⟨.name, name.text, none⟩] ++ [⟨.stop, [], none⟩] := h
  obtain ⟨codes, hglyphs, -⟩ := exists_codes_of_tokens htokens
  obtain ⟨lexemes, hlexes⟩ := exists_lexes (withoutMark codes)
  have hshown := lexemes_of_tokens hglyphs hlexes htokens
  have hname : lexemes = [.name name.text] := by
    cases lexemes with
    | nil => cases hshown
    | cons lexeme rest =>
      obtain ⟨hlexeme, hrest⟩ := List.cons.inj hshown
      cases hlexeme
      rw [List.map_eq_nil_iff.mp hrest.symm]
  rw [hname] at hlexes
  -- `codes` could begin with a mark, but the characters of the name do not.
  obtain ⟨first, more, htext, hfirst, hmore⟩ := hlexes.exists_name
  refine ⟨first :: more, htext, fun code hcode => ?_, ?_⟩
  · rcases List.mem_cons.mp hcode with rfl | hcode
    · exact hfirst.namePart.solid.1
    · exact (hmore code hcode).solid.1
  · have hname : Lexes (first :: (more ++ [])) [.name (ofCodes (first :: more))] :=
      .name hfirst hmore (by simp) .done
    rwa [List.append_nil, ← htext] at hname

namespace Phrase

mutual

def ofTy : Ty → Phrase
  | .name n => .name n.text
  | .fn [] result => .thunk (ofTy result)
  | .fn (first :: more) result => .function (ofTy first) (ofTys more) false (ofTy result)
  | .var _ | .unresolvable | .absent => .mark

def ofTys : List Ty → List Phrase
  | [] => []
  | ty :: rest => ofTy ty :: ofTys rest

end

theorem ofTys_eq_map (types : List Ty) : ofTys types = types.map ofTy := by
  induction types with
  | nil => rfl
  | cons ty rest ih => rw [ofTys, ih, List.map_cons]

/-- The phrase of a type whose names are in normal form stands for the type. -/
theorem type_ofTy {ty : Ty} (hclosed : ty.Closed)
    (hnames : ∀ name ∈ ty.names, name.text.normalize = name.text) : (ofTy ty).type = ty := by
  induction ty using Ty.inductionOn with
  | name n =>
    have hn := hnames n List.mem_cons_self
    rw [ofTy, type, Identifier.ofText, hn]
  | var v => exact absurd hclosed (Ty.not_closed_var v)
  | fn params result ihp ihr =>
    obtain ⟨hparams, hresult⟩ := Ty.closed_fn.mp hclosed
    have hp : ∀ p ∈ params, (ofTy p).type = p := fun p hp =>
      ihp p hp (hparams p hp) fun name hname =>
        hnames name (List.mem_append_left _ (Ty.mem_namesList.mpr ⟨p, hp, hname⟩))
    have hr := ihr hresult fun name hname => hnames name (List.mem_append_right _ hname)
    cases params with
    | nil => rw [ofTy, type, hr]
    | cons first more =>
      obtain ⟨hfirst, hmore⟩ := List.forall_mem_cons.mp hp
      have hmap : (more.map ofTy).map type = more := by
        rw [List.map_map]
        exact (List.map_congr_left hmore).trans (List.map_id more)
      rw [ofTy, type, hfirst, hr, ofTys_eq_map, types_eq_map, hmap]
  | unresolvable => rfl
  | absent => exact absurd hclosed Ty.not_closed_absent

end Phrase

/-- The lexemes with those of each name, which are given, in the place of the name. -/
def expand (spelled : Text → List Lexeme) (lexemes : List Lexeme) : List Lexeme :=
  lexemes.flatMap fun
    | .name text => spelled text
    | .sign code => [.sign code]

section Expand

variable {spelled : Text → List Lexeme}

theorem expand_append (lexemes more : List Lexeme) :
    expand spelled (lexemes ++ more) = expand spelled lexemes ++ expand spelled more :=
  List.flatMap_append

theorem expand_sign (sign : Char) (lexemes : List Lexeme) :
    expand spelled (.ofChar sign :: lexemes) = .ofChar sign :: expand spelled lexemes := rfl

theorem expand_self (lexemes : List Lexeme) :
    expand (fun text => [.name text]) lexemes = lexemes := by
  induction lexemes with
  | nil => rfl
  | cons lexeme rest ih =>
    rw [← List.singleton_append, expand_append, ih]
    cases lexeme <;> rfl

theorem written_renderAfter {types : List Ty}
    (htypes : ∀ ty ∈ types, Written ty.render (expand spelled (Phrase.ofTy ty).lexemes))
    (hrest : Written (0x29 :: rest) lexemes) :
    Written (Ty.renderAfter types ++ 0x29 :: rest)
      (expand spelled (Phrase.lexemesAfter (Phrase.ofTys types) false) ++ lexemes) := by
  induction types with
  | nil => exact hrest
  | cons ty types ih =>
    obtain ⟨hty, htypes⟩ := List.forall_mem_cons.mp htypes
    have hafter := hty.append (ih htypes) (Ty.breaks_renderAfter types rest)
    have hcomma := hafter.blank.sign ',' (by decide)
    rw [Phrase.ofTys, Phrase.lexemesAfter, expand_sign, expand_append, List.cons_append,
      List.append_assoc, Ty.renderAfter, List.flatMap_cons, List.append_assoc]
    exact hcomma

/-- What follows the parameters. -/
theorem written_arrow {result : Ty}
    (hresult : Written result.render (expand spelled (Phrase.ofTy result).lexemes)) :
    Written (0x29 :: (utf8 " -> " ++ result.render))
      (expand spelled (Phrase.arrow ++ (Phrase.ofTy result).lexemes)) := by
  have harrow : utf8 " -> " = [0x20, 0x2d, 0x3e, 0x20] := by decide
  have hdash := (hresult.blank.sign '>' (by decide)).sign '-' (by decide)
  rw [harrow]
  exact hdash.blank.sign ')' (by decide)

/-- The lexemes of a printed type are those of its phrase, each name with its own ones. -/
theorem written_render {ty : Ty} (hclosed : ty.Closed)
    (hmark : Written (utf8 "unresolvable") (spelled (utf8 "unresolvable")))
    (hnames : ∀ name ∈ ty.names, Written name.text (spelled name.text)) :
    Written ty.render (expand spelled (Phrase.ofTy ty).lexemes) := by
  induction ty using Ty.inductionOn with
  | name n =>
    have hn := hnames n List.mem_cons_self
    simpa [Phrase.ofTy, Phrase.lexemes, expand, Ty.render] using hn
  | var v => exact absurd hclosed (Ty.not_closed_var v)
  | fn params result ihp ihr =>
    obtain ⟨hparams, hresult⟩ := Ty.closed_fn.mp hclosed
    have hp : ∀ p ∈ params, Written p.render (expand spelled (Phrase.ofTy p).lexemes) :=
      fun p hp => ihp p hp (hparams p hp) fun name hname =>
        hnames name (List.mem_append_left _ (Ty.mem_namesList.mpr ⟨p, hp, hname⟩))
    have harrow := written_arrow
      (ihr hresult fun name hname => hnames name (List.mem_append_right _ hname))
    rw [Ty.render_fn]
    cases params with
    | nil => exact harrow.sign '(' (by decide)
    | cons first more =>
      obtain ⟨hfirst, hmore⟩ := List.forall_mem_cons.mp hp
      have hafter := written_renderAfter hmore harrow
      have hwhole := (hfirst.append hafter (Ty.breaks_renderAfter more _)).sign '(' (by decide)
      rw [Phrase.ofTy, Phrase.lexemes, expand_sign, expand_append, expand_append, Ty.renderParams,
        List.append_assoc]
      exact hwhole
  | unresolvable =>
    have hclose : Written [0x3e] [.ofChar '>'] := Written.nil.sign '>' (by decide)
    have hname := hmark.append hclose (breaks_cons (by decide))
    exact hname.sign '<' (by decide)
  | absent => exact absurd hclosed Ty.not_closed_absent

end Expand

theorem written_mark : Written (utf8 "unresolvable") [.name (utf8 "unresolvable")] := by
  have htoken : (Identifier.mk (utf8 "unresolvable")).IsToken := by decide +kernel
  exact written_of_isToken htoken

theorem spells_render {ty : Ty} (hclosed : ty.Closed)
    (htokens : ∀ name ∈ ty.names, name.IsToken) : Spells ty.render (Phrase.ofTy ty) := by
  have hrender : Written ty.render (expand (fun text => [.name text]) (Phrase.ofTy ty).lexemes) :=
    written_render hclosed written_mark fun name hname => written_of_isToken (htokens name hname)
  rw [expand_self] at hrender
  exact hrender.spells

end TypeText

/-- The printed form of a closed type is read as the type, if every name in it is one token and is
in normal form. -/
theorem parse_undoes_render {ty : Ty} (hclosed : ty.Closed)
    (hnames : ∀ name ∈ ty.names, name.IsToken ∧ name.text.normalize = name.text) :
    TypeText.parse ty.render = .ok ty := by
  refine TypeText.parse_eq_ok_iff_spells.mpr ⟨.ofTy ty, ?_, ?_⟩
  · exact TypeText.spells_render hclosed fun name hname => (hnames name hname).1
  · exact TypeText.Phrase.type_ofTy hclosed fun name hname => (hnames name hname).2

/-- `(() -> é, <unresolvable>) -> (_1) -> () -> é` has functions on both sides of arrows. -/
theorem parse_undoes_render_of_nested_functions :
    let accented : Identifier := ⟨[0xc3, 0xa9]⟩
    let ty : Ty := .fn [.fn [] (.name accented), .unresolvable]
      (.fn [.name ⟨[0x5f, 0x31]⟩] (.fn [] (.name accented)))
    ty.Closed ∧ (∀ name ∈ ty.names, name.IsToken ∧ name.text.normalize = name.text) ∧
      TypeText.parse ty.render = .ok ty := by
  intro accented ty
  have hclosed : ty.Closed := by decide
  have hnames : ∀ name ∈ ty.names, name.IsToken ∧ name.text.normalize = name.text := by
    decide +kernel
  exact ⟨hclosed, hnames, parse_undoes_render hclosed hnames⟩

end Typeflow
