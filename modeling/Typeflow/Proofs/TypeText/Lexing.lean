import Typeflow.Proofs.Text.Utf8
import Typeflow.TypeText.Token

/-!
What the tokens of a text show. The rules speak of characters: blanks are passed over, a name is
as long as it can be, and every other character stands for itself. The tokens of a text that
spells characters show what these rules give, and end with a stop. The stop carries a note exactly
if the text is no encoding of characters or holds the character zero.
-/

namespace Typeflow.TypeText

open Text

inductive Lexeme where
  | name (text : Text)
  | sign (code : Nat)
deriving DecidableEq

/-- What a token shows; a stop shows nothing. -/
def Token.lexeme? (token : Token) : Option Lexeme :=
  match token.kind with
  | .name => some (.name token.text)
  | .sign code => some (.sign code)
  | .stop => none

def Blank (code : Nat) : Prop := code = 0x09 ∨ code = 0x0a ∨ code = 0x0d ∨ code = 0x20

def NameStart (code : Nat) : Prop := code = 0x5f ∨ isLetter code = true

def NamePart (code : Nat) : Prop :=
  code = 0x5f ∨ isLetter code = true ∨ isDecimalDigit code = true

/-- The characters are divided into these lexemes. -/
inductive Lexes : List Nat → List Lexeme → Prop
  | done : Lexes [] []
  | blank {code : Nat} {rest : List Nat} {lexemes : List Lexeme} :
      Blank code → Lexes rest lexemes → Lexes (code :: rest) lexemes
  | name {first : Nat} {more rest : List Nat} {lexemes : List Lexeme} :
      NameStart first → (∀ code ∈ more, NamePart code) → (∀ code ∈ rest.head?, ¬ NamePart code) →
      Lexes rest lexemes →
      Lexes (first :: (more ++ rest)) (.name (ofCodes (first :: more)) :: lexemes)
  | sign {code : Nat} {rest : List Nat} {lexemes : List Lexeme} :
      ¬ Blank code → ¬ NameStart code → Lexes rest lexemes →
      Lexes (code :: rest) (.sign code :: lexemes)

variable {code : Nat} {codes : List Nat} {lexemes : List Lexeme} {problem : Option Problem}

theorem isBlank_scalar : isBlank (.scalar code) = true ↔ Blank code := by
  simp [isBlank, Blank, or_assoc]

theorem startsName_scalar : startsName (.scalar code) = true ↔ NameStart code := by
  simp [startsName, NameStart]

theorem continuesName_scalar : continuesName (.scalar code) = true ↔ NamePart code := by
  simp [continuesName, NamePart, or_assoc]

theorem not_blank_of_nameStart (h : NameStart code) : ¬ Blank code := by
  intro hblank
  rcases hblank with rfl | rfl | rfl | rfl <;> revert h <;> unfold NameStart <;> decide +kernel

/-- The last note after several characters have been seen. -/
def notedAll (problem : Option Problem) (glyphs : List Glyph) : Option Problem :=
  glyphs.foldl (fun problem glyph => noted problem (some glyph)) problem

theorem tokensFrom_append (front rest : List Glyph) (problem : Option Problem) :
    tokensFrom front.length problem (front ++ rest) =
      tokensFrom 0 (notedAll problem front) rest := by
  induction front generalizing problem with
  | nil => rfl
  | cons glyph front ih => exact ih (noted problem glyph)

/-- A name takes all the characters that can continue it. -/
theorem takeWhile_continuesName {more rest : List Nat} (hmore : ∀ code ∈ more, NamePart code)
    (hrest : ∀ code ∈ rest.head?, ¬ NamePart code) :
    ((more ++ rest).map Glyph.scalar).takeWhile continuesName = more.map Glyph.scalar := by
  rw [List.map_append]
  apply takeWhile_append_of_head
  · intro glyph hglyph
    obtain ⟨code, hcode, rfl⟩ := List.mem_map.mp hglyph
    exact continuesName_scalar.mpr (hmore code hcode)
  · intro glyph hglyph
    rw [List.head?_map, Option.mem_def, Option.map_eq_some_iff] at hglyph
    obtain ⟨code, hcode, rfl⟩ := hglyph
    rw [← Bool.not_eq_true, continuesName_scalar]
    exact hrest code hcode

theorem lexemes_of_lexes (h : Lexes codes lexemes) (problem : Option Problem) :
    (tokensFrom 0 problem (codes.map Glyph.scalar)).map Token.lexeme? =
      lexemes.map some ++ [none] := by
  induction h generalizing problem with
  | done => rfl
  | @blank code rest _ hblank _ ih =>
    have hcode := isBlank_scalar.mpr hblank
    rw [List.map_cons, tokensFrom]
    simp only [hcode, if_true]
    exact ih _
  | @name first more rest _ hfirst hmore hrest _ ih =>
    have hblank : isBlank (.scalar first) = false := by
      rw [← Bool.not_eq_true, isBlank_scalar]
      exact not_blank_of_nameStart hfirst
    have hstart := startsName_scalar.mpr hfirst
    have htake := takeWhile_continuesName hmore hrest
    rw [List.map_cons, tokensFrom]
    simp only [hblank, hstart, if_true, Bool.false_eq_true, if_false, htake, List.map_cons]
    rw [List.map_append, tokensFrom_append, ih, ← List.map_cons, ofGlyphs_scalar]
    rfl
  | @sign code rest _ hblank hstart _ ih =>
    have hblank : isBlank (.scalar code) = false := by
      rw [← Bool.not_eq_true, isBlank_scalar]
      exact hblank
    have hstart : startsName (.scalar code) = false := by
      rw [← Bool.not_eq_true, startsName_scalar]
      exact hstart
    rw [List.map_cons, tokensFrom]
    simp only [hblank, hstart, Bool.false_eq_true, if_false, List.map_cons, ih]
    rfl

theorem exists_lexes (codes : List Nat) : ∃ lexemes, Lexes codes lexemes := by
  induction hlength : codes.length using Nat.strongRecOn generalizing codes with
  | _ length ih =>
    cases codes with
    | nil => exact ⟨[], .done⟩
    | cons code rest =>
      by_cases hblank : Blank code
      · obtain ⟨lexemes, hrest⟩ := ih rest.length (by simp [← hlength]) rest rfl
        exact ⟨lexemes, .blank hblank hrest⟩
      · by_cases hstart : NameStart code
        · let part : Nat → Bool := fun code => continuesName (.scalar code)
          have hshorter : (rest.dropWhile part).length < length := by
            have hle := (List.dropWhile_suffix part (l := rest)).length_le
            simp only [List.length_cons] at hlength
            omega
          obtain ⟨lexemes, hrest⟩ := ih _ hshorter (rest.dropWhile part) rfl
          have hname := @Lexes.name code (rest.takeWhile part) _ _ hstart ?_ ?_ hrest
          · rw [List.takeWhile_append_dropWhile] at hname
            exact ⟨_, hname⟩
          · intro other hother
            exact continuesName_scalar.mp (List.all_eq_true.mp List.all_takeWhile other hother)
          · intro other hother
            have hnot := List.head?_dropWhile_not part rest
            rw [Option.mem_def.mp hother] at hnot
            rw [← continuesName_scalar]
            simpa [part] using hnot
        · obtain ⟨lexemes, hrest⟩ := ih rest.length (by simp [← hlength]) rest rfl
          exact ⟨.sign code :: lexemes, .sign hblank hstart hrest⟩

theorem notedAll_eq_none_iff {glyphs : List Glyph} :
    notedAll problem glyphs = none ↔
      problem = none ∧ ∀ glyph ∈ glyphs, problemOf glyph = none := by
  induction glyphs generalizing problem with
  | nil => simp [notedAll]
  | cons glyph rest ih =>
    have hstep : notedAll problem (glyph :: rest) = notedAll (noted problem glyph) rest := rfl
    rw [hstep, ih, List.forall_mem_cons]
    simp only [noted, Option.bind_some, Option.or_eq_none_iff, and_left_comm, and_assoc]

theorem problemOf_eq_none_iff {glyph : Glyph} :
    problemOf glyph = none ↔ ∃ code, code ≠ 0 ∧ glyph = .scalar code := by
  cases glyph with
  | stray byte => simp [problemOf]
  | scalar code =>
    cases code with
    | zero => simp [problemOf]
    | succ n => simp [problemOf]

/-- The last token is the only stop, and it carries the last note of all characters. -/
theorem tokensFrom_eq_concat (skipped : Nat) (problem : Option Problem) (glyphs : List Glyph) :
    ∃ front, tokensFrom skipped problem glyphs = front ++ [⟨.stop, [], notedAll problem glyphs⟩] ∧
      ∀ token ∈ front, token.kind ≠ .stop := by
  fun_induction tokensFrom skipped problem glyphs with
  | case1 skipped problem => exact ⟨[], rfl, by simp⟩
  | case2 skipped problem glyph rest ih => exact ih
  | case3 problem glyph rest noted hblank ih => exact ih
  | case4 problem glyph rest noted hblank hstart more ih =>
    obtain ⟨front, heq, hfront⟩ := ih
    rw [heq]
    exact ⟨_ :: front, rfl, List.forall_mem_cons.mpr ⟨by simp, hfront⟩⟩
  | case5 problem glyph rest noted hblank hstart ih =>
    obtain ⟨front, heq, hfront⟩ := ih
    rw [heq]
    refine ⟨_ :: front, rfl, List.forall_mem_cons.mpr ⟨?_, hfront⟩⟩
    cases glyph <;> simp [signOf]

end Typeflow.TypeText
