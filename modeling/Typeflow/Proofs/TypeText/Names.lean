import Typeflow.Proofs.Rendering
import Typeflow.Proofs.TypeText.Acceptance

/-!
Types that are read. They are closed, and their names are the normal forms of what is spelled: of
letters, digits and underscores. So they are legible.
-/

namespace Typeflow.TypeText

open Text

variable {codes : List Nat} {lexemes : List Lexeme}

theorem Phrase.type_closed (phrase : Phrase) : phrase.type.Closed := by
  induction phrase using Phrase.inductionOn with
  | name text => exact ⟨rfl, rfl⟩
  | mark => exact ⟨rfl, rfl⟩
  | thunk result ih => exact Ty.closed_fn.mpr ⟨by simp, ih⟩
  | function first more comma result hfirst hmore hresult =>
    refine Ty.closed_fn.mpr ⟨List.forall_mem_cons.mpr ⟨hfirst, ?_⟩, hresult⟩
    rw [Phrase.types_eq_map, List.forall_mem_map]
    exact hmore

/-- There are no variables and no empty places in a type that was written down. -/
theorem parse_closed (source : Text) : Returns (parse source) Ty.Closed := by
  intro ty hty
  obtain ⟨phrase, -, rfl⟩ := parse_eq_ok_iff_spells.mp hty
  exact phrase.type_closed

theorem inert_of_namePart {code : Nat} (h : NamePart code) : Inert code := by
  rcases h with rfl | hletter | hdigit
  · exact inert_of_isInert_self (by decide)
  · exact inert_of_isLetter hletter
  · exact inert_of_isDecimalDigit hdigit

theorem NameStart.namePart {code : Nat} (h : NameStart code) : NamePart code :=
  h.imp_right Or.inl

/-- A name that is read is spelled by letters, digits and underscores. -/
theorem Lexes.exists_spelling (h : Lexes codes lexemes) {text : Text}
    (hmem : .name text ∈ lexemes) :
    ∃ part, part ≠ [] ∧ text = ofCodes part ∧ (∀ code ∈ part, NamePart code) ∧ part ⊆ codes := by
  induction h with
  | done => cases hmem
  | blank _ _ ih =>
    obtain ⟨part, hne, htext, hpart, hsubset⟩ := ih hmem
    exact ⟨part, hne, htext, hpart, List.subset_cons_of_subset _ hsubset⟩
  | @name first more rest _ hfirst hmore _ _ ih =>
    rcases List.mem_cons.mp hmem with heq | hmem
    · cases heq
      refine ⟨first :: more, by simp, rfl, ?_, ?_⟩
      · exact List.forall_mem_cons.mpr ⟨hfirst.namePart, hmore⟩
      · exact List.cons_subset_cons _ (List.subset_append_left _ _)
    · obtain ⟨part, hne, htext, hpart, hsubset⟩ := ih hmem
      exact ⟨part, hne, htext, hpart,
        List.subset_cons_of_subset _ (List.subset_append_of_subset_right _ hsubset)⟩
  | sign _ _ _ ih =>
    rcases List.mem_cons.mp hmem with heq | hmem
    · cases heq
    · obtain ⟨part, hne, htext, hpart, hsubset⟩ := ih hmem
      exact ⟨part, hne, htext, hpart, List.subset_cons_of_subset _ hsubset⟩

/-- The names of a phrase are the normal forms of its lexemes. -/
theorem Phrase.exists_lexeme_of_name (phrase : Phrase) : ∀ name ∈ phrase.type.names,
    ∃ text, .name text ∈ phrase.lexemes ∧ name = Identifier.ofText text := by
  induction phrase using Phrase.inductionOn with
  | name text =>
    intro name hname
    exact ⟨text, List.mem_cons_self, List.mem_singleton.mp hname⟩
  | mark =>
    intro name hname
    cases hname
  | thunk result ih =>
    intro name hname
    obtain ⟨text, htext, rfl⟩ := ih name hname
    exact ⟨text, by simp [Phrase.lexemes, htext], rfl⟩
  | function first more comma result hfirst hmore hresult =>
    intro name hname
    simp only [Phrase.type, Ty.names, Ty.namesList, Phrase.types_eq_map, List.mem_append,
      Ty.mem_namesList] at hname
    rcases hname with (hname | ⟨ty, hty, hname⟩) | hname
    · obtain ⟨text, htext, rfl⟩ := hfirst name hname
      exact ⟨text, by simp [Phrase.lexemes, htext], rfl⟩
    · obtain ⟨phrase, hphrase, rfl⟩ := List.mem_map.mp hty
      obtain ⟨text, htext, rfl⟩ := hmore phrase hphrase name hname
      exact ⟨text, by simp [Phrase.lexemes, Phrase.mem_lexemesAfter hphrase htext], rfl⟩
    · obtain ⟨text, htext, rfl⟩ := hresult name hname
      exact ⟨text, by simp [Phrase.lexemes, htext], rfl⟩

theorem parse_legible (source : Text) : Returns (parse source) Ty.Legible := by
  intro ty hty
  refine ⟨parse_closed source ty hty, fun name hname => ?_⟩
  obtain ⟨phrase, ⟨codes, -, hcodes, hlexes⟩, rfl⟩ := parse_eq_ok_iff_spells.mp hty
  obtain ⟨text, htext, rfl⟩ := phrase.exists_lexeme_of_name name hname
  obtain ⟨part, hne, rfl, hpart, hsubset⟩ := hlexes.exists_spelling htext
  refine Identifier.legible_ofCodes hne fun code hcode => ?_
  exact ⟨(hcodes code (mem_of_mem_withoutMark (hsubset hcode))).1,
    inert_of_namePart (hpart code hcode)⟩

end Typeflow.TypeText
