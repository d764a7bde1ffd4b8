import Typeflow.Proofs.TypeText.Acceptance

/-!
Reading on after an error. A reader of types need not stop at an error: it can keep the error and
take the current token for the end of the text. It goes on with the parts that it was going to
read, but no further token is passed over, nothing is accepted, and the error that is kept is the
one at which another reader stops. So both accept the grammar.
-/

namespace Typeflow.TypeText

open Text

/-- A reader that reads on. `kind` is what it takes the current token for. -/
structure Cursor where
  tokens : List Token
  kind : TokenKind
  error : Option Reason

namespace Cursor

def text (cursor : Cursor) : Text := (Reader.head cursor.tokens).text

/-- Goes to the next token. A note about a character replaces the error. -/
def next : StateM Cursor Unit := modify fun cursor =>
  let token := Reader.head cursor.tokens.tail
  ⟨cursor.tokens.tail, token.kind, (token.problem.map .character).or cursor.error⟩

/-- Notes an error, unless there is one already. -/
def fail (reason : Text → Reason) : StateM Cursor Unit := modify fun cursor =>
  ⟨cursor.tokens, .stop, cursor.error.or (some (reason cursor.text))⟩

def expect (sign : Char) : StateM Cursor Unit := do
  if (← get).kind = .sign sign.toNat then next else fail (.expectedSign sign)

mutual

/-- Reads one type. Where there is none it returns an absent one. -/
def type : Nat → StateM Cursor Ty
  | 0 => do
    fail .unexpected
    return .absent
  | depth + 1 => do
    let cursor ← get
    if cursor.kind = .name then
      next
      return .name (Identifier.ofText cursor.text)
    else if cursor.kind = .sign '<'.toNat then
      next
      let cursor ← get
      if cursor.kind = .name ∧ cursor.text = utf8 "unresolvable" then
        next
        expect '>'
        return .unresolvable
      else
        fail .expectedMark
        return .absent
    else if cursor.kind = .sign '('.toNat then
      next
      let params ← params depth
      expect ')'
      expect '-'
      expect '>'
      return .fn params (← type depth)
    else
      fail .unexpected
      return .absent

def params : Nat → StateM Cursor (List Ty)
  | 0 => do
    fail .unexpected
    return []
  | depth + 1 => do
    let cursor ← get
    if cursor.kind = .sign ')'.toNat ∨ cursor.kind = .stop then return []
    else
      let param ← type depth
      if (← get).kind = .sign ','.toNat then
        next
        return param :: (← params depth)
      else return [param]

end

/-- The cursor at the first of the tokens. -/
def ofTokens (tokens : List Token) : Cursor :=
  ⟨tokens, (Reader.head tokens).kind, (Reader.head tokens).problem.map .character⟩

/-- The type is returned if no error has been noted and the text is at its end. -/
def conclude (source : Text) (ty : Ty) (cursor : Cursor) : Except Error Ty :=
  let cursor :=
    if cursor.error = none ∧ cursor.kind ≠ .stop then (fail .unexpected cursor).2 else cursor
  match cursor.error with
  | some reason => .error ⟨source, reason⟩
  | none => .ok ty

def parse (source : Text) : Except Error Ty :=
  let tokens := TypeText.tokens source
  let result := type (2 * tokens.length + 1) (ofTokens tokens)
  conclude source result.1 result.2

/-- An error has been noted, and the text is taken to be at its end. -/
def Ended (cursor : Cursor) (reason : Reason) : Prop :=
  cursor.kind = .stop ∧ cursor.error = some reason

end Cursor

/-- There is a stop, and notes are passed on from each token to the next. -/
inductive Noted : List Token → Prop
  | stop {token : Token} (hstop : token.kind = .stop) : Noted [token]
  | cons {token : Token} {rest : List Token}
      (hproblem : (Reader.head rest).problem = none → token.problem = none)
      (hrest : Noted rest) : Noted (token :: rest)

section Notes

variable {problem : Option Problem} {glyph : Option Glyph}

theorem noted_eq_none_iff :
    noted problem glyph = none ↔ problem = none ∧ glyph.bind problemOf = none := by
  unfold noted
  rw [Option.or_eq_none_iff, and_comm]

/-- The first token carries the notes of the first character. -/
theorem noted_head_of_problem (problem : Option Problem) (glyphs : List Glyph)
    (h : (Reader.head (tokensFrom 0 problem glyphs)).problem = none) :
    noted problem glyphs.head? = none := by
  induction glyphs generalizing problem with
  | nil => exact h
  | cons glyph rest ih =>
    unfold tokensFrom at h
    dsimp only at h
    split at h
    · exact (noted_eq_none_iff.mp (ih _ h)).1
    · split at h
      · exact (noted_eq_none_iff.mp h).1
      · exact (noted_eq_none_iff.mp h).1

theorem noted_tokensFrom (skipped : Nat) (problem : Option Problem) (glyphs : List Glyph) :
    Noted (tokensFrom skipped problem glyphs) := by
  fun_induction tokensFrom skipped problem glyphs with
  | case1 skipped problem => exact .stop rfl
  | case2 skipped problem glyph rest ih => exact ih
  | case3 problem glyph rest noted hblank ih => exact ih
  | case4 problem glyph rest problem' hblank hstart more ih =>
    refine .cons (fun hhead => ?_) ih
    -- The characters of the name are passed over before the next token.
    have hrest : more ++ rest.dropWhile continuesName = rest := List.takeWhile_append_dropWhile
    rw [← hrest, tokensFrom_append] at hhead
    obtain ⟨hproblem, hglyph⟩ := noted_eq_none_iff.mp (noted_head_of_problem _ _ hhead)
    exact noted_eq_none_iff.mpr ⟨(notedAll_eq_none_iff.mp hproblem).1, hglyph⟩
  | case5 problem glyph rest problem' hblank hstart ih =>
    exact .cons (noted_head_of_problem _ _) ih

theorem noted_tokens (source : Text) : Noted (tokens source) := by
  unfold tokens
  split <;> exact noted_tokensFrom 0 none _

end Notes

namespace Cursor

variable {α β : Type} {reader : Reader α} {steps : StateM Cursor α} {tokens : List Token}
  {reason : Text → Reason}

/-- From these tokens the two readers return the same and are at the same place, or the one stops
and the other has ended with that error. -/
def MirrorsAt (reader : Reader α) (steps : StateM Cursor α) (tokens : List Token) : Prop :=
  match reader tokens with
  | .ok (value, rest) => steps (ofTokens tokens) = (value, ofTokens rest) ∧ Noted rest
  | .error found => (steps (ofTokens tokens)).2.Ended found

/-- A cursor that has ended stays so, with the error that it has. -/
def KeepsEnd (steps : StateM Cursor α) : Prop :=
  ∀ cursor found, Ended cursor found → (steps cursor).2.Ended found

structure Mirrors (reader : Reader α) (steps : StateM Cursor α) : Prop where
  reads : ∀ tokens, Noted tokens → MirrorsAt reader steps tokens
  keepsEnd : KeepsEnd steps

theorem Ended.kind_ne_name {cursor : Cursor} {found : Reason} (h : cursor.Ended found) :
    cursor.kind ≠ .name := by
  simp [h.1]

theorem Ended.kind_ne_sign {cursor : Cursor} {found : Reason} (h : cursor.Ended found)
    (sign : Char) : cursor.kind ≠ .sign sign.toNat := by
  simp [h.1]

theorem ended_fail {cursor : Cursor} {found : Reason} (h : cursor.Ended found) :
    (fail reason cursor).2.Ended found := by
  refine ⟨rfl, ?_⟩
  show cursor.error.or _ = _
  rw [h.2]
  rfl

theorem error_fail_ofTokens : (fail reason (ofTokens tokens)).2.error =
    some (((Reader.head tokens).problem.map .character).getD
      (reason (Reader.head tokens).text)) := by
  show ((Reader.head tokens).problem.map Reason.character).or _ = _
  cases (Reader.head tokens).problem <;> rfl

namespace MirrorsAt

theorem pure (hnoted : Noted tokens) (value : α) :
    MirrorsAt (Pure.pure value) (Pure.pure value) tokens := ⟨rfl, hnoted⟩

theorem bind {f : α → Reader β} {g : α → StateM Cursor β} (h : MirrorsAt reader steps tokens)
    (hmirrors : ∀ value, Mirrors (f value) (g value)) :
    MirrorsAt (reader >>= f) (steps >>= g) tokens := by
  unfold MirrorsAt at h
  cases hread : reader tokens with
  | ok result =>
    obtain ⟨value, rest⟩ := result
    rw [hread] at h
    obtain ⟨hsteps, hnoted⟩ := h
    have hrest := (hmirrors value).reads rest hnoted
    unfold MirrorsAt at hrest ⊢
    rw [Reader.bind_run hread]
    have hbind : (steps >>= g) (ofTokens tokens) = g value (ofTokens rest) := by
      show g (steps (ofTokens tokens)).1 (steps (ofTokens tokens)).2 = _
      rw [hsteps]
    rw [hbind]
    exact hrest
  | error found =>
    rw [hread] at h
    unfold MirrorsAt
    rw [Reader.bind_run_error hread]
    exact (hmirrors _).keepsEnd _ _ h

theorem current {f : Token → Reader α} {g : Cursor → StateM Cursor α}
    (h : MirrorsAt (f (Reader.head tokens)) (g (ofTokens tokens)) tokens) :
    MirrorsAt (Reader.current >>= f) (get >>= g) tokens := by
  cases tokens <;> exact h

theorem next {f : Unit → Reader α} {g : Unit → StateM Cursor α} (hnoted : Noted tokens)
    (hkind : (Reader.head tokens).kind ≠ .stop)
    (h : ∀ rest, Noted rest → MirrorsAt (f ()) (g ()) rest) :
    MirrorsAt (Reader.next >>= f) (Cursor.next >>= g) tokens := by
  cases hnoted with
  | stop hstop => exact absurd hstop hkind
  | @cons token rest hproblem hrest =>
    have hat : (Cursor.next (ofTokens (token :: rest))).2 = ofTokens rest := by
      show Cursor.mk rest _ _ = ofTokens rest
      unfold ofTokens
      congr 1
      show ((Reader.head rest).problem.map Reason.character).or (token.problem.map .character) = _
      cases hhead : (Reader.head rest).problem with
      | some problem => rfl
      | none => rw [hproblem hhead]; rfl
    have hsteps : (Cursor.next >>= g) (ofTokens (token :: rest)) = g () (ofTokens rest) :=
      congrArg (g ()) hat
    have hrun := h rest hrest
    unfold MirrorsAt at hrun ⊢
    rw [hsteps]
    exact hrun

theorem fail (junk : α) :
    MirrorsAt (Reader.fail reason) (Cursor.fail reason >>= fun _ => Pure.pure junk) tokens := by
  unfold MirrorsAt
  rw [Reader.fail_run]
  exact ⟨rfl, error_fail_ofTokens⟩

end MirrorsAt

theorem Mirrors.pure (value : α) : Mirrors (Pure.pure value) (Pure.pure value) :=
  ⟨fun _ hnoted => MirrorsAt.pure hnoted value, fun _ _ hended => hended⟩

theorem Mirrors.bind {f : α → Reader β} {g : α → StateM Cursor β} (h : Mirrors reader steps)
    (hmirrors : ∀ value, Mirrors (f value) (g value)) : Mirrors (reader >>= f) (steps >>= g) :=
  ⟨fun tokens hnoted => (h.reads tokens hnoted).bind hmirrors,
    fun cursor found hended => (hmirrors _).keepsEnd _ _ (h.keepsEnd cursor found hended)⟩

theorem expect_mirrors (sign : Char) : Mirrors (Reader.expect sign) (expect sign) := by
  refine ⟨fun tokens hnoted => MirrorsAt.current ?_, fun cursor found hended => ?_⟩
  · by_cases hsign : (Reader.head tokens).kind = .sign sign.toNat
    · have hnext : MirrorsAt (Reader.next >>= Pure.pure) (next >>= Pure.pure) tokens :=
        MirrorsAt.next hnoted (by simp [hsign]) fun rest hrest => MirrorsAt.pure hrest ()
      simpa [Token.isSign, ofTokens, hsign] using hnext
    · simpa [Token.isSign, ofTokens, hsign] using
        (MirrorsAt.fail () : MirrorsAt (Reader.fail (.expectedSign sign)) _ tokens)
  · show ((if cursor.kind = .sign sign.toNat then next else fail _) cursor).2.Ended found
    rw [if_neg (hended.kind_ne_sign sign)]
    exact ended_fail hended

theorem isSign_iff {token : Token} {sign : Char} :
    token.isSign sign = true ↔ token.kind = .sign sign.toNat := by
  simp [Token.isSign]

private theorem mark_mirrors {tokens : List Token} (hnoted : Noted tokens) :
    MirrorsAt
      (do
        let token ← Reader.current
        if token.kind = .name ∧ token.text = utf8 "unresolvable" then
          Reader.next
          Reader.expect '>'
          return Ty.unresolvable
        else Reader.fail .expectedMark)
      (do
        let cursor ← get
        if cursor.kind = .name ∧ cursor.text = utf8 "unresolvable" then
          next
          expect '>'
          return Ty.unresolvable
        else
          fail .expectedMark
          return .absent) tokens := by
  refine MirrorsAt.current ?_
  by_cases hword : (Reader.head tokens).kind = .name ∧
      (Reader.head tokens).text = utf8 "unresolvable"
  · have hcursor : (ofTokens tokens).kind = .name ∧
        (ofTokens tokens).text = utf8 "unresolvable" := hword
    rw [if_pos hword, if_pos hcursor]
    refine MirrorsAt.next hnoted (by simp [hword.1]) fun rest hrest => ?_
    exact ((expect_mirrors '>').bind fun _ => Mirrors.pure _).reads rest hrest
  · have hcursor : ¬ ((ofTokens tokens).kind = .name ∧
        (ofTokens tokens).text = utf8 "unresolvable") := hword
    rw [if_neg hword, if_neg hcursor]
    exact MirrorsAt.fail _

theorem type_reads {depth : Nat} (htype : Mirrors (Reader.type depth) (type depth))
    (hparams : Mirrors (Reader.params depth) (params depth)) (hnoted : Noted tokens) :
    MirrorsAt (Reader.type (depth + 1)) (type (depth + 1)) tokens := by
  unfold Reader.type type
  refine MirrorsAt.current ?_
  have hkind : (ofTokens tokens).kind = (Reader.head tokens).kind := rfl
  simp only [isSign_iff, hkind]
  by_cases hname : (Reader.head tokens).kind = .name
  · rw [if_pos hname, if_pos hname]
    exact MirrorsAt.next hnoted (by simp [hname]) fun rest hrest => MirrorsAt.pure hrest _
  rw [if_neg hname, if_neg hname]
  by_cases hangle : (Reader.head tokens).kind = .sign '<'.toNat
  · rw [if_pos hangle, if_pos hangle]
    exact MirrorsAt.next hnoted (by simp [hangle]) fun rest hrest => mark_mirrors hrest
  rw [if_neg hangle, if_neg hangle]
  by_cases hbracket : (Reader.head tokens).kind = .sign '('.toNat
  · rw [if_pos hbracket, if_pos hbracket]
    refine MirrorsAt.next hnoted (by simp [hbracket]) fun rest hrest => ?_
    refine (hparams.reads rest hrest).bind fun params => ?_
    exact (expect_mirrors ')').bind fun _ => (expect_mirrors '-').bind fun _ =>
      (expect_mirrors '>').bind fun _ => htype.bind fun result => Mirrors.pure _
  · rw [if_neg hbracket, if_neg hbracket]
    exact MirrorsAt.fail _

theorem type_keepsEnd (depth : Nat) : KeepsEnd (type depth) := by
  intro cursor found hended
  cases depth with
  | zero => exact ended_fail hended
  | succ depth =>
    unfold type
    show ((if cursor.kind = .name then _ else _ : StateM Cursor Ty) cursor).2.Ended found
    rw [if_neg hended.kind_ne_name, if_neg (hended.kind_ne_sign '<'),
      if_neg (hended.kind_ne_sign '(')]
    exact ended_fail hended

theorem params_reads {depth : Nat} (htype : Mirrors (Reader.type depth) (type depth))
    (hparams : Mirrors (Reader.params depth) (params depth)) (hnoted : Noted tokens) :
    MirrorsAt (Reader.params (depth + 1)) (params (depth + 1)) tokens := by
  unfold Reader.params params
  refine MirrorsAt.current ?_
  have hkind : (ofTokens tokens).kind = (Reader.head tokens).kind := rfl
  simp only [isSign_iff, hkind]
  by_cases hclose : (Reader.head tokens).kind = .sign ')'.toNat ∨
      (Reader.head tokens).kind = .stop
  · rw [if_pos hclose, if_pos hclose]
    exact MirrorsAt.pure hnoted _
  rw [if_neg hclose, if_neg hclose]
  refine (htype.reads tokens hnoted).bind fun param => ⟨fun rest hrest => ?_, ?_⟩
  · refine MirrorsAt.current ?_
    have hkind : (ofTokens rest).kind = (Reader.head rest).kind := rfl
    simp only [hkind]
    by_cases hcomma : (Reader.head rest).kind = .sign ','.toNat
    · rw [if_pos hcomma, if_pos hcomma]
      refine MirrorsAt.next hrest (by simp [hcomma]) fun after hafter => ?_
      exact (hparams.reads after hafter).bind fun more => Mirrors.pure _
    · rw [if_neg hcomma, if_neg hcomma]
      exact MirrorsAt.pure hrest _
  · intro cursor found hended
    show ((if cursor.kind = .sign ','.toNat then _ else _ : StateM Cursor (List Ty))
      cursor).2.Ended found
    rw [if_neg (hended.kind_ne_sign ',')]
    exact hended

theorem params_keepsEnd (depth : Nat) : KeepsEnd (params depth) := by
  intro cursor found hended
  cases depth with
  | zero => exact ended_fail hended
  | succ depth =>
    unfold params
    show ((if cursor.kind = .sign ')'.toNat ∨ cursor.kind = .stop then _ else _ :
      StateM Cursor (List Ty)) cursor).2.Ended found
    rw [if_pos (Or.inr hended.1)]
    exact hended

theorem type_mirrors (depth : Nat) :
    Mirrors (Reader.type depth) (type depth) ∧ Mirrors (Reader.params depth) (params depth) := by
  induction depth with
  | zero =>
    exact ⟨⟨fun _ _ => MirrorsAt.fail Ty.absent, type_keepsEnd 0⟩,
      ⟨fun _ _ => MirrorsAt.fail [], params_keepsEnd 0⟩⟩
  | succ depth ih =>
    obtain ⟨htype, hparams⟩ := ih
    exact ⟨⟨fun _ => type_reads htype hparams, type_keepsEnd _⟩,
      ⟨fun _ => params_reads htype hparams, params_keepsEnd _⟩⟩

theorem conclude_of_error {source : Text} {ty : Ty} {cursor : Cursor} {found : Reason}
    (h : cursor.error = some found) : conclude source ty cursor = .error ⟨source, found⟩ := by
  simp [conclude, h]

/-- Where a type has been read, the rest of the text decides. -/
theorem conclude_ofTokens {source : Text} {depth : Nat} {ty : Ty} {rest : List Token}
    (hread : Reader.type depth tokens = .ok (ty, rest)) :
    conclude source ty (ofTokens rest) =
      match Reader.wholeType depth tokens with
      | .ok (ty, _) => .ok ty
      | .error reason => .error ⟨source, reason⟩ := by
  unfold Reader.wholeType
  rw [Reader.bind_run hread, Reader.bind_run (Reader.current_run rest)]
  cases hproblem : (Reader.head rest).problem with
  | some problem =>
    have herror : (ofTokens rest).error = some (.character problem) := by
      simp [ofTokens, hproblem]
    rw [conclude_of_error herror, if_neg (by simp), Reader.fail_run, hproblem]
    rfl
  | none =>
    have herror : (ofTokens rest).error = none := by simp [ofTokens, hproblem]
    by_cases hstop : (Reader.head rest).kind = .stop
    · have hend : (ofTokens rest).kind = .stop := hstop
      rw [if_pos ⟨hstop, rfl⟩]
      show conclude source ty (ofTokens rest) = .ok ty
      simp [conclude, herror, hend]
    · have hopen : (ofTokens rest).kind ≠ .stop := hstop
      rw [if_neg (fun h => hstop h.1), Reader.fail_run]
      simp [conclude, herror, hopen, error_fail_ofTokens]

/-- Reading on gives the type or the error that stopping gives. -/
theorem parse_eq (source : Text) : parse source = TypeText.parse source := by
  unfold parse TypeText.parse
  dsimp only
  generalize 2 * (TypeText.tokens source).length + 1 = depth
  have hmirrors := (type_mirrors depth).1.reads _ (noted_tokens source)
  unfold MirrorsAt at hmirrors
  cases hread : Reader.type depth (TypeText.tokens source) with
  | error found =>
    rw [hread] at hmirrors
    have hstop : Reader.wholeType depth (TypeText.tokens source) = .error found :=
      Reader.bind_run_error hread
    rw [conclude_of_error hmirrors.2, StateT.run, hstop]
  | ok result =>
    obtain ⟨ty, rest⟩ := result
    rw [hread] at hmirrors
    rw [hmirrors.1]
    exact conclude_ofTokens hread

end Cursor

/-- Reading accepts the texts that spell a phrase, and returns the type of the phrase. A text
spells at most one phrase. A reader that goes on after an error, as if the text were at its end,
accepts the same texts with the same types, and reports the same errors. -/
theorem parse_accepts_grammar (source : Text) :
    (∀ ty, parse source = .ok ty ↔ ∃ phrase, Spells source phrase ∧ phrase.type = ty) ∧
      (∀ phrase other, Spells source phrase → Spells source other → phrase = other) ∧
      Cursor.parse source = parse source :=
  ⟨fun _ => parse_eq_ok_iff_spells, fun _ _ hphrase hother => hphrase.unique hother,
    Cursor.parse_eq source⟩

end Typeflow.TypeText
