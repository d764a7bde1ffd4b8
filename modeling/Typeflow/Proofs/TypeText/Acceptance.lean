import Typeflow.Proofs.Returns
import Typeflow.Proofs.TypeText.Grammar
import Typeflow.TypeText.Parse

/-!
The reader of types against the grammar. What the reader takes is a phrase, and it returns the
type of the phrase; where a phrase stands, the reader takes it, at a depth of twice the number of
its tokens. So a text is read exactly if it spells a phrase: it is an encoding of characters
without the character zero, and its lexemes are those of the phrase. The phrase is the only one
that the text spells.
-/

namespace Typeflow.TypeText

open Text

namespace Token

variable {token : Token}

theorem lexeme?_eq_name {text : Text} :
    token.lexeme? = some (.name text) ↔ token.kind = .name ∧ token.text = text := by
  cases hkind : token.kind <;> simp [lexeme?, hkind]

theorem lexeme?_eq_sign {sign : Char} :
    token.lexeme? = some (.ofChar sign) ↔ token.isSign sign = true := by
  cases hkind : token.kind <;> simp [lexeme?, isSign, Lexeme.ofChar, hkind]

theorem lexeme?_eq_none : token.lexeme? = none ↔ token.kind = .stop := by
  cases hkind : token.kind <;> simp [lexeme?, hkind]

theorem kind_ne_name {sign : Char} (h : token.isSign sign = true) : token.kind ≠ .name := by
  simp_all [isSign]

theorem not_isSign {sign other : Char} (h : token.isSign sign = true)
    (hother : sign.toNat ≠ other.toNat) : ¬ token.isSign other = true := by
  simp_all [isSign]

end Token

namespace Reader

variable {α β : Type} {tokens rest : List Token} {lexeme : Lexeme}
  {holds : List (Option Lexeme) → α → Prop}

def head (tokens : List Token) : Token := tokens.headD ⟨.stop, [], none⟩

theorem current_run (tokens : List Token) : current tokens = .ok (head tokens, tokens) := by
  cases tokens <;> rfl

theorem current_run_cons {token : Token} :
    current (token :: rest) = .ok (token, token :: rest) := rfl

theorem next_run {token : Token} : next (token :: rest) = .ok ((), rest) := rfl

theorem eq_cons_of_head (h : (head tokens).lexeme? = some lexeme) :
    ∃ rest, tokens = head tokens :: rest := by
  cases tokens with
  | nil => cases h
  | cons token rest => exact ⟨rest, rfl⟩

theorem bind_run {reader : Reader α} {f : α → Reader β} {value : α}
    (h : reader tokens = .ok (value, rest)) : (reader >>= f) tokens = f value rest := by
  show (reader tokens >>= fun result => f result.1 result.2) = f value rest
  rw [h]
  rfl

theorem bind_run_error {reader : Reader α} {f : α → Reader β} {reason : Reason}
    (h : reader tokens = .error reason) : (reader >>= f) tokens = .error reason := by
  show (reader tokens >>= fun result => f result.1 result.2) = .error reason
  rw [h]
  rfl

/-- A note about a character is reported in the place of what else is wrong. -/
theorem fail_run (reason : Text → Reason) : (fail reason : Reader α) tokens =
    .error (((head tokens).problem.map .character).getD (reason (head tokens).text)) := by
  rw [fail, bind_run (current_run tokens)]
  cases (head tokens).problem <;> rfl

theorem fail_returns {reason : Text → Reason} {holds : α × List Token → Prop} :
    Returns (fail reason tokens) holds := by
  rw [fail_run]
  exact Returns.error

/-- If the reader returns, then it has read tokens from the front, and what they show and what is
returned are related so. -/
def Reads (reader : Reader α) (tokens : List Token) (holds : List (Option Lexeme) → α → Prop) :
    Prop :=
  Returns (reader tokens) fun result =>
    ∃ read, tokens = read ++ result.2 ∧ holds (read.map Token.lexeme?) result.1

namespace Reads

theorem pure {value : α} (h : holds [] value) : Reads (Pure.pure value) tokens holds :=
  Returns.ok ⟨[], rfl, h⟩

theorem bind {reader : Reader α} {f : α → Reader β} {holds : List (Option Lexeme) → β → Prop}
    {middle : List (Option Lexeme) → α → Prop} (hreader : Reads reader tokens middle)
    (hf : ∀ rest read value, middle read value →
      Reads (f value) rest fun more result => holds (read ++ more) result) :
    Reads (reader >>= f) tokens holds := by
  refine Returns.bind hreader fun result hresult => ?_
  obtain ⟨read, heq, hmiddle⟩ := hresult
  intro final hfinal
  obtain ⟨more, heq', hholds⟩ := hf _ _ _ hmiddle final hfinal
  refine ⟨read ++ more, ?_, ?_⟩
  · rw [heq, heq', List.append_assoc]
  · rw [List.map_append]
    exact hholds

theorem current {f : Token → Reader α} (h : Reads (f (head tokens)) tokens holds) :
    Reads (current >>= f) tokens holds := by
  cases tokens <;> exact h

theorem next {f : Unit → Reader α} (h : (head tokens).lexeme? = some lexeme)
    (hf : ∀ rest, Reads (f ()) rest fun read value => holds (some lexeme :: read) value) :
    Reads (next >>= f) tokens holds := by
  obtain ⟨rest, heq⟩ := eq_cons_of_head h
  intro result hresult
  rw [heq] at hresult
  obtain ⟨read, hread, hholds⟩ := hf rest result hresult
  refine ⟨head tokens :: read, ?_, ?_⟩
  · rw [List.cons_append, ← hread]
    exact heq
  · rw [List.map_cons, h]
    exact hholds

theorem fail {reason : Text → Reason} : Reads (fail reason) tokens holds := fail_returns

theorem expect {sign : Char} :
    Reads (expect sign) tokens fun read _ => read = [some (.ofChar sign)] := by
  refine current ?_
  split
  · rename_i hsign
    have hnext : Reads (Reader.next >>= Pure.pure) tokens
        fun read _ => read = [some (.ofChar sign)] :=
      next (Token.lexeme?_eq_sign.mpr hsign) fun rest => pure rfl
    simpa using hnext
  · exact fail

end Reads

/-- The tokens spell a phrase for the type. -/
def ReadType (read : List (Option Lexeme)) (ty : Ty) : Prop :=
  ∃ phrase : Phrase, read = phrase.lexemes.map some ∧ phrase.type = ty

/-- The tokens spell the phrases of parameters. -/
def ReadParams (read : List (Option Lexeme)) (params : List Ty) : Prop :=
  read = [] ∧ params = [] ∨ ∃ (first : Phrase) (more : List Phrase) (comma : Bool),
    read = (first.lexemes ++ Phrase.lexemesAfter more comma).map some ∧
      params = first.type :: Phrase.types more

theorem type_reads (depth : Nat) :
    (∀ tokens, Reads (type depth) tokens ReadType) ∧
      ∀ tokens, Reads (params depth) tokens ReadParams := by
  -- Types and parameters are read by each other at one depth less, so both are proved at once.
  induction depth with
  | zero => exact ⟨fun _ => Reads.fail, fun _ => Reads.fail⟩
  | succ depth ih =>
    obtain ⟨htype, hparams⟩ := ih
    constructor
    · intro tokens
      rw [type]
      refine Reads.current ?_
      split
      case isTrue hname =>
        refine Reads.next (Token.lexeme?_eq_name.mpr ⟨hname, rfl⟩) fun _ => Reads.pure ?_
        exact ⟨.name _, rfl, rfl⟩
      split
      case isTrue hsign =>
        refine Reads.next (Token.lexeme?_eq_sign.mpr hsign) fun tokens => Reads.current ?_
        split
        · rename_i hmark
          refine Reads.next (Token.lexeme?_eq_name.mpr hmark) fun _ => ?_
          refine Reads.bind Reads.expect fun _ read _ hread => Reads.pure ⟨.mark, ?_, rfl⟩
          rw [hread]
          rfl
        · exact Reads.fail
      split
      case isTrue hsign =>
        refine Reads.next (Token.lexeme?_eq_sign.mpr hsign) fun tokens => ?_
        refine Reads.bind (hparams tokens) fun _ _ params hread => ?_
        refine Reads.bind Reads.expect fun _ _ _ hclose => ?_
        refine Reads.bind Reads.expect fun _ _ _ hdash => ?_
        refine Reads.bind Reads.expect fun tokens _ _ hangle => ?_
        refine Reads.bind (htype tokens) fun _ _ result hresult => Reads.pure ?_
        obtain ⟨result, rfl, rfl⟩ := hresult
        subst hclose hdash hangle
        rcases hread with ⟨rfl, rfl⟩ | ⟨first, more, comma, rfl, rfl⟩
        · exact ⟨.thunk result, by simp [Phrase.lexemes, Phrase.arrow], rfl⟩
        · exact ⟨.function first more comma result, by simp [Phrase.lexemes, Phrase.arrow], rfl⟩
      · exact Reads.fail
    · intro tokens
      rw [params]
      refine Reads.current ?_
      split
      · exact Reads.pure (Or.inl ⟨rfl, rfl⟩)
      · refine Reads.bind (htype tokens) fun tokens read param hread => Reads.current ?_
        obtain ⟨first, rfl, rfl⟩ := hread
        split
        · rename_i hcomma
          refine Reads.next (Token.lexeme?_eq_sign.mpr hcomma) fun tokens => ?_
          refine Reads.bind (hparams tokens) fun _ _ params hread => Reads.pure (Or.inr ?_)
          rcases hread with ⟨rfl, rfl⟩ | ⟨second, more, comma, rfl, rfl⟩
          · exact ⟨first, [], true, by simp [Phrase.lexemesAfter, Phrase.trailing], rfl⟩
          · exact ⟨first, second :: more, comma, by simp [Phrase.lexemesAfter], rfl⟩
        · refine Reads.pure (Or.inr ⟨first, [], false, ?_, rfl⟩)
          simp [Phrase.lexemesAfter, Phrase.trailing]

theorem expect_run {sign : Char} {token : Token} (h : token.lexeme? = some (.ofChar sign)) :
    expect sign (token :: rest) = .ok ((), rest) := by
  rw [expect, bind_run current_run_cons, if_pos (Token.lexeme?_eq_sign.mp h), next_run]

theorem params_run_close {depth : Nat} (hdepth : 0 < depth) (h : (head rest).isSign ')' = true) :
    params depth rest = .ok ([], rest) := by
  obtain ⟨depth, rfl⟩ := Nat.exists_eq_succ_of_ne_zero (Nat.ne_of_gt hdepth)
  rw [params, bind_run (current_run _), if_pos (Or.inl h)]
  rfl

theorem type_run_function {depth : Nat} {opening close dash angle : Token} {tail : List Token}
    {types : List Ty} {result : Ty} (hopening : opening.lexeme? = some (.ofChar '('))
    (hclose : close.lexeme? = some (.ofChar ')')) (hdash : dash.lexeme? = some (.ofChar '-'))
    (hangle : angle.lexeme? = some (.ofChar '>'))
    (hparams : params depth tokens = .ok (types, close :: dash :: angle :: tail))
    (hresult : type depth tail = .ok (result, rest)) :
    type (depth + 1) (opening :: tokens) = .ok (.fn types result, rest) := by
  have hsign := Token.lexeme?_eq_sign.mp hopening
  rw [type, bind_run current_run_cons, if_neg (Token.kind_ne_name hsign),
    if_neg (Token.not_isSign hsign (by decide)), if_pos hsign, bind_run next_run,
    bind_run hparams,
    bind_run (expect_run hclose), bind_run (expect_run hdash), bind_run (expect_run hangle),
    bind_run hresult]
  rfl

/-- A parameter is read, and what comes after it decides how the reader goes on. -/
theorem params_run_cons {depth : Nat} {token : Token} {types : List Ty} {param : Ty}
    {tail : List Token} (htoken : token.lexeme? = some lexeme) (hlexeme : lexeme ≠ .ofChar ')')
    (hparam : type depth (token :: tokens) = .ok (param, tail))
    (htail : ¬ (head tail).isSign ',' = true ∧ types = [] ∧ rest = tail ∨
      ∃ comma tail', tail = comma :: tail' ∧ comma.isSign ',' = true ∧
        params depth tail' = .ok (types, rest)) :
    params (depth + 1) (token :: tokens) = .ok (param :: types, rest) := by
  have hgoes : ¬ (token.isSign ')' = true ∨ token.kind = .stop) := by
    rw [← Token.lexeme?_eq_sign, ← Token.lexeme?_eq_none, htoken]
    simpa using hlexeme
  rw [params, bind_run current_run_cons, if_neg hgoes, bind_run hparam]
  rcases htail with ⟨hcomma, rfl, rfl⟩ | ⟨comma, tail', rfl, hcomma, hrest⟩
  · rw [bind_run (current_run _), if_neg hcomma]
    rfl
  · rw [bind_run current_run_cons, if_pos hcomma, bind_run next_run, bind_run hrest]
    rfl

/-- Where a phrase stands, the reader takes it. -/
theorem type_run (depth : Nat) :
    (∀ (phrase : Phrase) (read rest : List Token),
      read.map Token.lexeme? = phrase.lexemes.map some → 2 * read.length ≤ depth →
      type depth (read ++ rest) = .ok (phrase.type, rest)) ∧
    ∀ (first : Phrase) (more : List Phrase) (comma : Bool) (read rest : List Token),
      read.map Token.lexeme? = (first.lexemes ++ Phrase.lexemesAfter more comma).map some →
      2 * read.length < depth → (head rest).isSign ')' = true →
      params depth (read ++ rest) = .ok (first.type :: Phrase.types more, rest) := by
  induction depth with
  | zero =>
    refine ⟨fun phrase read rest h hdepth => ?_, fun _ _ _ _ _ _ hdepth => by omega⟩
    obtain ⟨first, tail, hfirst, -⟩ := phrase.exists_first
    rw [hfirst] at h
    cases read with
    | nil => cases h
    | cons token read => simp at hdepth
  | succ depth ih =>
    obtain ⟨htype, hparams⟩ := ih
    constructor
    · intro phrase read rest h hdepth
      cases phrase with
      | name text =>
        obtain ⟨token, rfl, htoken⟩ := List.map_eq_singleton_iff.mp h
        obtain ⟨hkind, rfl⟩ := Token.lexeme?_eq_name.mp htoken
        rw [type, List.singleton_append, bind_run current_run_cons, if_pos hkind,
          bind_run next_run]
        rfl
      | mark =>
        obtain ⟨first, read, rfl, hfirst, h⟩ := List.map_eq_cons_iff.mp h
        obtain ⟨second, read, rfl, hsecond, h⟩ := List.map_eq_cons_iff.mp h
        obtain ⟨third, rfl, hthird⟩ := List.map_eq_singleton_iff.mp h
        have hsign := Token.lexeme?_eq_sign.mp hfirst
        rw [type, List.cons_append, bind_run current_run_cons, if_neg (Token.kind_ne_name hsign),
          if_pos hsign, bind_run next_run, List.cons_append, bind_run current_run_cons,
          if_pos (Token.lexeme?_eq_name.mp hsecond), bind_run next_run, List.singleton_append,
          bind_run (expect_run hthird)]
        rfl
      | thunk result =>
        obtain ⟨opening, read, rfl, hopening, h⟩ := List.map_eq_cons_iff.mp h
        obtain ⟨close, read, rfl, hclose, h⟩ := List.map_eq_cons_iff.mp h
        obtain ⟨dash, read, rfl, hdash, h⟩ := List.map_eq_cons_iff.mp h
        obtain ⟨angle, read, rfl, hangle, h⟩ := List.map_eq_cons_iff.mp h
        simp only [List.length_cons] at hdepth
        have hresult := htype result read rest h (by omega)
        refine type_run_function hopening hclose hdash hangle ?_ hresult
        exact params_run_close (by omega) (Token.lexeme?_eq_sign.mp hclose)
      | function first more comma result =>
        obtain ⟨opening, read, rfl, hopening, h⟩ := List.map_eq_cons_iff.mp h
        rw [← List.append_assoc, List.map_append] at h
        obtain ⟨front, read, rfl, hfront, h⟩ := List.map_eq_append_iff.mp h
        obtain ⟨close, read, rfl, hclose, h⟩ := List.map_eq_cons_iff.mp h
        obtain ⟨dash, read, rfl, hdash, h⟩ := List.map_eq_cons_iff.mp h
        obtain ⟨angle, read, rfl, hangle, h⟩ := List.map_eq_cons_iff.mp h
        simp only [List.length_cons, List.length_append] at hdepth
        rw [List.cons_append, List.append_assoc]
        have hresult := htype result read rest h (by omega)
        refine type_run_function hopening hclose hdash hangle ?_ hresult
        exact hparams first more comma front _ hfront (by omega) (Token.lexeme?_eq_sign.mp hclose)
    · intro first more comma read rest h hdepth hrest
      rw [List.map_append] at h
      obtain ⟨front, back, rfl, hfront, hback⟩ := List.map_eq_append_iff.mp h
      obtain ⟨lexeme, lexemes, hlexemes, -, hlexeme⟩ := first.exists_first
      have hfirst := htype first front (back ++ rest) hfront
      rw [hlexemes] at hfront
      obtain ⟨token, front, rfl, htoken, -⟩ := List.map_eq_cons_iff.mp hfront
      simp only [List.length_cons, List.length_append] at hdepth hfirst
      rw [List.append_assoc]
      refine params_run_cons htoken hlexeme (hfirst (by omega)) ?_
      cases more with
      | nil =>
        cases comma with
        | false =>
          obtain rfl := List.map_eq_nil_iff.mp hback
          exact Or.inl ⟨Token.not_isSign hrest (by decide), rfl, rfl⟩
        | true =>
          obtain ⟨comma, rfl, hcomma⟩ := List.map_eq_singleton_iff.mp hback
          have hclose : params depth rest = .ok ([], rest) := params_run_close (by omega) hrest
          exact Or.inr ⟨comma, rest, rfl, Token.lexeme?_eq_sign.mp hcomma, hclose⟩
      | cons second more =>
        obtain ⟨mark, back, rfl, hmark, hback⟩ := List.map_eq_cons_iff.mp hback
        simp only [List.length_cons] at hdepth
        refine Or.inr ⟨mark, back ++ rest, rfl, Token.lexeme?_eq_sign.mp hmark, ?_⟩
        exact hparams second more comma back rest hback (by omega) hrest

theorem kind_ne_stop {lexemes : List Lexeme} (h : tokens.map Token.lexeme? = lexemes.map some) :
    ∀ token ∈ tokens, token.kind ≠ .stop := by
  intro token htoken hkind
  have hnone : none ∈ lexemes.map some := by
    rw [← h, ← Token.lexeme?_eq_none.mpr hkind]
    exact List.mem_map_of_mem htoken
  simp at hnone

theorem eq_of_stop {read front : List Token} {stop : Token} (h : front ++ [stop] = read ++ rest)
    (hfront : ∀ token ∈ front, token.kind ≠ .stop) (hstop : stop.kind = .stop)
    (hread : ∀ token ∈ read, token.kind ≠ .stop) (hrest : (head rest).kind = .stop) :
    front = read ∧ rest = [stop] := by
  induction read generalizing front with
  | nil =>
    cases front with
    | nil => exact ⟨rfl, h.symm⟩
    | cons token front =>
      obtain rfl := h
      exact absurd hrest (hfront token List.mem_cons_self)
  | cons token read ih =>
    cases front with
    | nil =>
      obtain ⟨rfl, -⟩ := List.cons.inj h
      exact absurd hstop (hread stop List.mem_cons_self)
    | cons token' front =>
      obtain ⟨rfl, htail⟩ := List.cons.inj h
      obtain ⟨-, hfront⟩ := List.forall_mem_cons.mp hfront
      obtain ⟨-, hread⟩ := List.forall_mem_cons.mp hread
      obtain ⟨rfl, hrest⟩ := ih htail hfront hread
      exact ⟨rfl, hrest⟩

/-- A whole type is read exactly if the tokens before the stop spell a phrase and the stop carries
no note. -/
theorem wholeType_run_iff {front : List Token} {stop : Token} {depth : Nat} {ty : Ty}
    (hfront : ∀ token ∈ front, token.kind ≠ .stop) (hstop : stop.kind = .stop)
    (hdepth : 2 * front.length ≤ depth) :
    (∃ rest, wholeType depth (front ++ [stop]) = .ok (ty, rest)) ↔
      stop.problem = none ∧ ReadType (front.map Token.lexeme?) ty := by
  have hsound : Returns (wholeType depth (front ++ [stop])) fun result =>
      stop.problem = none ∧ ReadType (front.map Token.lexeme?) result.1 := by
    refine Returns.bind ((type_reads depth).1 _) fun result hresult => ?_
    obtain ⟨value, rest⟩ := result
    obtain ⟨read, heq, phrase, hphrase, hty⟩ := hresult
    simp only
    rw [bind_run (current_run _)]
    split
    · rename_i hhead
      obtain ⟨rfl, hrest⟩ := eq_of_stop heq hfront hstop (kind_ne_stop hphrase) hhead.1
      obtain rfl : rest = [stop] := hrest
      exact Returns.ok ⟨hhead.2, phrase, hphrase, hty⟩
    · exact fail_returns
  constructor
  · intro h
    obtain ⟨rest, h⟩ := h
    exact hsound _ h
  · intro h
    obtain ⟨hproblem, phrase, hphrase, rfl⟩ := h
    refine ⟨[stop], ?_⟩
    rw [wholeType, bind_run ((type_run depth).1 phrase front [stop] hphrase hdepth),
      bind_run current_run_cons, if_pos ⟨hstop, hproblem⟩]
    rfl

end Reader

/-- The characters after one byte order mark at the start. -/
def withoutMark : List Nat → List Nat
  | 0xfeff :: rest => rest
  | codes => codes

/-- The text is an encoding of characters other than zero, and their lexemes are those of the
phrase. -/
def Spells (source : Text) (phrase : Phrase) : Prop :=
  ∃ codes, source = ofCodes codes ∧ (∀ code ∈ codes, IsScalar code ∧ code ≠ 0) ∧
    Lexes (withoutMark codes) phrase.lexemes

variable {source : Text} {codes : List Nat}

theorem exists_codes_of_problems {glyphs : List Glyph}
    (h : ∀ glyph ∈ glyphs, problemOf glyph = none) :
    ∃ codes : List Nat, glyphs = codes.map Glyph.scalar ∧ ∀ code ∈ codes, code ≠ 0 := by
  induction glyphs with
  | nil => exact ⟨[], rfl, by simp⟩
  | cons glyph rest ih =>
    obtain ⟨hglyph, hrest⟩ := List.forall_mem_cons.mp h
    obtain ⟨code, hcode, rfl⟩ := problemOf_eq_none_iff.mp hglyph
    obtain ⟨codes, rfl, hcodes⟩ := ih hrest
    exact ⟨code :: codes, rfl, List.forall_mem_cons.mpr ⟨hcode, hcodes⟩⟩

theorem tokens_of_glyphs (h : source.glyphs = codes.map Glyph.scalar) :
    tokens source = tokensFrom 0 none ((withoutMark codes).map Glyph.scalar) := by
  unfold tokens
  rw [h]
  cases codes with
  | nil => rfl
  | cons code codes =>
    by_cases hmark : code = 0xfeff
    · subst hmark
      rfl
    · have hwithout : withoutMark (code :: codes) = code :: codes := by
        unfold withoutMark
        split <;> simp_all
      rw [hwithout]
      split <;> simp_all

/-- The tokens end without a note exactly if no character has a problem. -/
theorem problem_eq_none_iff {glyphs : List Glyph} {front : List Token} {problem : Option Problem}
    (h : tokensFrom 0 none glyphs = front ++ [⟨.stop, [], problem⟩]) :
    problem = none ↔ ∀ glyph ∈ glyphs, problemOf glyph = none := by
  obtain ⟨front', heq, -⟩ := tokensFrom_eq_concat 0 none glyphs
  obtain ⟨-, hstop⟩ := List.append_inj' (heq.symm.trans h) rfl
  simp only [List.cons.injEq, Token.mk.injEq, true_and, and_true] at hstop
  rw [← hstop, notedAll_eq_none_iff, eq_self, true_and]

theorem exists_codes_of_tokens {front : List Token}
    (h : tokens source = front ++ [⟨.stop, [], none⟩]) :
    ∃ codes : List Nat, source.glyphs = codes.map Glyph.scalar ∧ ∀ code ∈ codes, code ≠ 0 := by
  apply exists_codes_of_problems
  unfold tokens at h
  split at h
  · rename_i rest heq
    rw [heq]
    exact List.forall_mem_cons.mpr ⟨rfl, (problem_eq_none_iff h).mp rfl⟩
  · exact (problem_eq_none_iff h).mp rfl

theorem mem_of_mem_withoutMark {code : Nat} (h : code ∈ withoutMark codes) : code ∈ codes := by
  unfold withoutMark at h
  split at h
  · exact List.mem_cons_of_mem _ h
  · exact h

/-- The lexemes of a text without problem are what its tokens show. -/
theorem lexemes_of_tokens {front : List Token} {lexemes : List Lexeme}
    (h : source.glyphs = codes.map Glyph.scalar) (hlexes : Lexes (withoutMark codes) lexemes)
    {problem : Option Problem} (htokens : tokens source = front ++ [⟨.stop, [], problem⟩]) :
    front.map Token.lexeme? = lexemes.map some := by
  have hshown := lexemes_of_lexes hlexes none
  rw [← tokens_of_glyphs h, htokens, List.map_append] at hshown
  exact (List.append_inj' hshown rfl).1

theorem tokens_eq_concat (source : Text) : ∃ front problem,
    tokens source = front ++ [⟨.stop, [], problem⟩] ∧ ∀ token ∈ front, token.kind ≠ .stop := by
  unfold tokens
  split <;> exact (tokensFrom_eq_concat 0 none _).imp fun front h => ⟨_, h⟩

theorem parse_eq_ok_iff {ty : Ty} : parse source = .ok ty ↔
    ∃ rest, Reader.wholeType (2 * (tokens source).length + 1) (tokens source) =
      .ok (ty, rest) := by
  unfold parse
  simp only [StateT.run]
  split <;> simp_all

/-- A text spells a phrase exactly if its tokens before the stop show the phrase and the stop
carries no note. -/
theorem spells_iff {front : List Token} {problem : Option Problem} {phrase : Phrase}
    (htokens : tokens source = front ++ [⟨.stop, [], problem⟩]) :
    Spells source phrase ↔
      problem = none ∧ front.map Token.lexeme? = phrase.lexemes.map some := by
  constructor
  · intro h
    obtain ⟨codes, rfl, hcodes, hlexes⟩ := h
    have hglyphs := glyphs_ofCodes fun code hcode => (hcodes code hcode).1
    refine ⟨?_, lexemes_of_tokens hglyphs hlexes htokens⟩
    rw [tokens_of_glyphs hglyphs] at htokens
    rw [problem_eq_none_iff htokens, List.forall_mem_map]
    intro code hcode
    exact problemOf_eq_none_iff.mpr ⟨code, (hcodes code (mem_of_mem_withoutMark hcode)).2, rfl⟩
  · intro h
    obtain ⟨rfl, hfront⟩ := h
    obtain ⟨codes, hglyphs, hcodes⟩ := exists_codes_of_tokens htokens
    obtain ⟨hsource, hscalar⟩ := eq_ofCodes_of_glyphs hglyphs
    obtain ⟨lexemes, hlexes⟩ := exists_lexes (withoutMark codes)
    have hshown := (lexemes_of_tokens hglyphs hlexes htokens).symm.trans hfront
    have heq : lexemes = phrase.lexemes :=
      (List.map_inj_right fun _ _ => Option.some.inj).mp hshown
    exact ⟨codes, hsource,
      fun code hcode => ⟨hscalar code hcode, hcodes code hcode⟩, heq ▸ hlexes⟩

/-- A text is read exactly if it spells a phrase, and then as the type of the phrase. -/
theorem parse_eq_ok_iff_spells {ty : Ty} :
    parse source = .ok ty ↔ ∃ phrase, Spells source phrase ∧ phrase.type = ty := by
  obtain ⟨front, problem, htokens, hfront⟩ := tokens_eq_concat source
  have hdepth : 2 * front.length ≤ 2 * (tokens source).length + 1 := by
    rw [htokens, List.length_append]
    omega
  rw [parse_eq_ok_iff]
  simp only [spells_iff htokens]
  rw [htokens] at hdepth ⊢
  rw [Reader.wholeType_run_iff hfront rfl hdepth]
  unfold Reader.ReadType
  simp only [and_assoc, exists_and_left]

/-- A text spells one phrase at most. -/
theorem Spells.unique {phrase other : Phrase} (h : Spells source phrase)
    (hother : Spells source other) : phrase = other := by
  obtain ⟨front, problem, htokens, -⟩ := tokens_eq_concat source
  obtain ⟨-, hphrase⟩ := (spells_iff htokens).mp h
  obtain ⟨-, hother⟩ := (spells_iff htokens).mp hother
  apply Phrase.lexemes_injective
  exact (List.map_inj_right fun _ _ => Option.some.inj).mp (hphrase.symm.trans hother)

end Typeflow.TypeText
