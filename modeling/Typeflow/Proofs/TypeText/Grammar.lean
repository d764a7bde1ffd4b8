import Typeflow.Proofs.TypeText.Lexing
import Typeflow.Ty

/-!
The grammar of written types. A phrase is a derivation: a name, the mark `<unresolvable>`, or
parameters in brackets with an arrow before the result. It spells lexemes and stands for a type.
Phrases can be read in one way only: lexemes that begin with a phrase determine it and what is
left.
-/

namespace Typeflow.TypeText

open Text

def Lexeme.ofChar (sign : Char) : Lexeme := .sign sign.toNat

/-- A derivation of a written type. `comma` says that a comma follows the last parameter. -/
inductive Phrase where
  | name (text : Text)
  | mark
  | thunk (result : Phrase)
  | function (first : Phrase) (more : List Phrase) (comma : Bool) (result : Phrase)

namespace Phrase

/-- Induction over phrases, with the statement known of every parameter. -/
@[elab_as_elim]
theorem inductionOn {motive : Phrase → Prop} (phrase : Phrase)
    (name : ∀ text, motive (.name text)) (mark : motive .mark)
    (thunk : ∀ result, motive result → motive (.thunk result))
    (function : ∀ first more comma result, motive first → (∀ p ∈ more, motive p) → motive result →
      motive (.function first more comma result)) : motive phrase := by
  refine @Phrase.rec motive (fun more => ∀ p ∈ more, motive p) name mark thunk function
    ?_ ?_ phrase
  · intro p hp
    cases hp
  · intro first rest hfirst hrest p hp
    rcases List.mem_cons.mp hp with rfl | hp
    · exact hfirst
    · exact hrest p hp

def arrow : List Lexeme := [.ofChar ')', .ofChar '-', .ofChar '>']

def trailing (comma : Bool) : List Lexeme := if comma then [.ofChar ','] else []

mutual

def lexemes : Phrase → List Lexeme
  | .name text => [.name text]
  | .mark => [.ofChar '<', .name (utf8 "unresolvable"), .ofChar '>']
  | .thunk result => .ofChar '(' :: (arrow ++ result.lexemes)
  | .function first more comma result =>
    .ofChar '(' :: (first.lexemes ++ (lexemesAfter more comma ++ (arrow ++ result.lexemes)))

/-- The lexemes of the parameters after the first one. -/
def lexemesAfter : List Phrase → Bool → List Lexeme
  | [], comma => trailing comma
  | first :: more, comma => .ofChar ',' :: (first.lexemes ++ lexemesAfter more comma)

end

mutual

/-- The type that a phrase stands for. Its names are in normal form. -/
def type : Phrase → Ty
  | .name text => .name (Identifier.ofText text)
  | .mark => .unresolvable
  | .thunk result => .fn [] result.type
  | .function first more _ result => .fn (first.type :: types more) result.type

def types : List Phrase → List Ty
  | [] => []
  | first :: more => first.type :: types more

end

theorem types_eq_map (phrases : List Phrase) : types phrases = phrases.map type := by
  induction phrases with
  | nil => rfl
  | cons first more ih => rw [types, ih, List.map_cons]

theorem mem_lexemesAfter {phrases : List Phrase} {comma : Bool} {phrase : Phrase}
    {lexeme : Lexeme} (hphrase : phrase ∈ phrases) (hlexeme : lexeme ∈ phrase.lexemes) :
    lexeme ∈ lexemesAfter phrases comma := by
  induction phrases with
  | nil => cases hphrase
  | cons first more ih =>
    rw [lexemesAfter, List.mem_cons, List.mem_append]
    rcases List.mem_cons.mp hphrase with rfl | hphrase
    · exact Or.inr (Or.inl hlexeme)
    · exact Or.inr (Or.inr (ih hphrase))

/-- No phrase begins with a comma or a closing bracket. -/
theorem exists_first (phrase : Phrase) : ∃ first rest, phrase.lexemes = first :: rest ∧
    first ≠ .ofChar ',' ∧ first ≠ .ofChar ')' := by
  cases phrase with
  | name text => exact ⟨_, _, rfl, nofun, nofun⟩
  | mark => exact ⟨_, _, rfl, by decide, by decide⟩
  | thunk result => exact ⟨_, _, rfl, by decide, by decide⟩
  | function first more comma result => exact ⟨_, _, rfl, by decide, by decide⟩

/-- Lexemes that begin with the phrase begin with no other one. -/
def Determined (phrase : Phrase) : Prop :=
  ∀ other rest rest', phrase.lexemes ++ rest = other.lexemes ++ rest' →
    phrase = other ∧ rest = rest'

/-- The parameters after the first one are determined up to the closing bracket. -/
theorem lexemesAfter_determined {more others : List Phrase} {comma comma' : Bool}
    {rest rest' : List Lexeme} (hmore : ∀ p ∈ more, Determined p)
    (h : lexemesAfter more comma ++ .ofChar ')' :: rest =
      lexemesAfter others comma' ++ .ofChar ')' :: rest') :
    more = others ∧ comma = comma' ∧ rest = rest' := by
  have hcomma : Lexeme.ofChar ',' ≠ .ofChar ')' := by decide
  induction more generalizing others with
  | nil =>
    cases others with
    | nil => cases comma <;> cases comma' <;> simp_all [lexemesAfter, trailing]
    | cons other others =>
      -- After a comma stands a bracket here and a phrase there.
      obtain ⟨first, tail, hfirst, -, hne⟩ := other.exists_first
      cases comma <;> simp_all [lexemesAfter, trailing]
  | cons phrase more ih =>
    obtain ⟨hphrase, hmore⟩ := List.forall_mem_cons.mp hmore
    cases others with
    | nil =>
      obtain ⟨first, tail, hfirst, -, hne⟩ := phrase.exists_first
      cases comma' <;> simp_all [lexemesAfter, trailing]
    | cons other others =>
      simp only [lexemesAfter, List.cons_append, List.append_assoc, List.cons.injEq,
        true_and] at h
      obtain ⟨rfl, htail⟩ := hphrase _ _ _ h
      obtain ⟨rfl, rfl, rfl⟩ := ih hmore htail
      exact ⟨rfl, rfl, rfl⟩

theorem determined (phrase : Phrase) : Determined phrase := by
  induction phrase using inductionOn with
  | name text =>
    intro other rest rest' h
    cases other <;> simp_all [lexemes, Lexeme.ofChar]
  | mark =>
    intro other rest rest' h
    cases other <;> simp_all [lexemes, Lexeme.ofChar]
  | thunk result ih =>
    intro other rest rest' h
    cases other with
    | name text => simp [lexemes, Lexeme.ofChar] at h
    | mark => simp [lexemes, Lexeme.ofChar] at h
    | thunk other =>
      simp only [lexemes, arrow, List.cons_append, List.nil_append, List.cons.injEq,
        true_and] at h
      obtain ⟨rfl, rfl⟩ := ih _ _ _ h
      exact ⟨rfl, rfl⟩
    | function first more comma other =>
      obtain ⟨lexeme, tail, hfirst, -, hne⟩ := first.exists_first
      simp [lexemes, arrow, hfirst, hne.symm] at h
  | function first more comma result hfirst hmore hresult =>
    intro other rest rest' h
    cases other with
    | name text => simp [lexemes, Lexeme.ofChar] at h
    | mark => simp [lexemes, Lexeme.ofChar] at h
    | thunk other =>
      obtain ⟨lexeme, tail, hlexeme, -, hne⟩ := first.exists_first
      simp [lexemes, arrow, hlexeme, hne] at h
    | function first' more' comma' result' =>
      simp only [lexemes, arrow, List.cons_append, List.nil_append, List.append_assoc,
        List.cons.injEq, true_and] at h
      obtain ⟨rfl, hparams⟩ := hfirst _ _ _ h
      obtain ⟨rfl, rfl, harrow⟩ := lexemesAfter_determined hmore hparams
      simp only [List.cons.injEq, true_and] at harrow
      obtain ⟨rfl, rfl⟩ := hresult _ _ _ harrow
      exact ⟨rfl, rfl⟩

theorem lexemes_injective {phrase other : Phrase} (h : phrase.lexemes = other.lexemes) :
    phrase = other :=
  (phrase.determined other [] [] (by simpa using h)).1

end Phrase

end Typeflow.TypeText
