import Typeflow.Proofs.Text.Runs

/-!
Normal forms are stable. The normal form fits, so it gets no joiners; decomposed and sorted again
it gives the list that it was composed from. Normalizing leads out of no set of characters that
holds what decomposing and composing can produce; so the normal form of characters spells
characters, and for texts normalizing twice is normalizing once.
-/

namespace Typeflow

open CodeSet

namespace Normal

open Glyph

theorem normalizeGlyphs_normalizeGlyphs (glyphs : List Glyph) :
    normalizeGlyphs (normalizeGlyphs glyphs) = normalizeGlyphs glyphs := by
  let parts := (breakRuns 0 glyphs).flatMap decomposeGlyph
  let sorted := sortMarks [] parts
  have hparts : AllAtomic parts := allAtomic_flatMap _
  have hsorting : Reorders parts sorted := sortMarks_reorders sorted_nil parts
  have hsorted : AllAtomic sorted := fun glyph hglyph =>
    hparts glyph (hsorting.perm.mem_iff.mpr hglyph)
  have hcomposing : Reorders sorted ((normalizeGlyphs glyphs).flatMap decomposeGlyph) :=
    composeFrom_reorders (Open.kept_nil none 0) hsorted (ordered_sortMarks sorted_nil parts)
  -- Fitting is carried from the broken runs through all the steps to the normal form.
  have hfits : Fits 0 (normalizeGlyphs glyphs) := by
    rw [← fits_flatMap, ← hcomposing.fits_iff hsorted, ← hsorting.fits_iff hparts, fits_flatMap]
    exact fits_breakRuns (Nat.zero_le _)
  have hagain : sortMarks [] ((normalizeGlyphs glyphs).flatMap decomposeGlyph) = sorted := by
    rw [← hcomposing.sortMarks_eq, ← hsorting.sortMarks_eq]
  rw [normalizeGlyphs, breakRuns_of_fits hfits, hagain]
  rfl

/-- The code points that normalizing can put in the place of others. -/
def produced : Nat :=
  ofList [joiner] ||| decomposed ||| decomposable |||
    ofRanges [(0x1100, 0x11ff), (0xac00, 0xd7a3)]

variable {code part set : Nat}

theorem testBit_produced : produced.testBit code = true ↔
    ((code = joiner ∨ decomposed.testBit code = true) ∨ decomposable.testBit code = true) ∨
      0x1100 ≤ code ∧ code ≤ 0x11ff ∨ 0xac00 ≤ code ∧ code ≤ 0xd7a3 := by
  rw [produced, Nat.testBit_or, Nat.testBit_or, Nat.testBit_or, Bool.or_eq_true, Bool.or_eq_true,
    Bool.or_eq_true, testBit_ofList, testBit_ofRanges, List.mem_singleton]
  simp [Ranges.contains]

theorem produced_of_mem_decompose (h : part ∈ decompose code) :
    part = code ∨ produced.testBit part = true := by
  rw [testBit_produced]
  unfold decompose at h
  split at h
  · rename_i hsyllable
    have hbounds := hangul_decompose_bounds hsyllable part h
    exact Or.inr (Or.inr (Or.inl hbounds))
  · rcases mem_decomposeWithin h with rfl | hdecomposed
    · exact Or.inl rfl
    · exact Or.inr (Or.inl (Or.inl (Or.inr hdecomposed)))

theorem produced_of_composePair? {first second whole : Nat}
    (h : composePair? first second = some whole) : produced.testBit whole = true := by
  rw [testBit_produced]
  rcases composePair?_eq_some h with hcompose | ⟨hpair, -⟩
  · have hbounds := isSyllable_iff.mp (hangul_compose?_eq_some hcompose).1
    exact Or.inr (Or.inr hbounds)
  · exact Or.inl (Or.inr (testBit_decomposable (decomposeOnce_of_pair hpair)))

/-- Normalizing leads out of no set that holds what it can produce. -/
theorem normalizeGlyphs_closed (hset : produced &&& set = produced) {glyphs : List Glyph}
    (h : Spelled (set.testBit · = true) glyphs) :
    Spelled (set.testBit · = true) (normalizeGlyphs glyphs) := by
  have hjoiner := testBit_produced.mpr (Or.inl (Or.inl (Or.inl rfl)))
  refine normalizeGlyphs_spelled_of (testBit_of_subset hset hjoiner) ?_
    (fun _ hcode => hcode) ?_ h
  · intro code hcode part hpart
    rcases produced_of_mem_decompose hpart with rfl | hproduced
    · exact hcode
    · exact testBit_of_subset hset hproduced
  · intro first second whole hwhole
    exact testBit_of_subset hset (produced_of_composePair? hwhole)

theorem Spelled.exists_codes {holds : Nat → Prop} {glyphs : List Glyph}
    (h : Spelled holds glyphs) :
    ∃ codes : List Nat, glyphs = codes.map scalar ∧ ∀ code ∈ codes, holds code := by
  induction glyphs with
  | nil => exact ⟨[], rfl, by simp⟩
  | cons glyph rest ih =>
    obtain ⟨⟨code, rfl, hcode⟩, hrest⟩ := List.forall_mem_cons.mp h
    obtain ⟨codes, rfl, hcodes⟩ := ih hrest
    exact ⟨code :: codes, rfl, List.forall_mem_cons.mpr ⟨hcode, hcodes⟩⟩

end Normal

namespace Text

open Typeflow.Normal

variable {codes : List Nat} {set : Nat}

def scalars : Nat := ofRanges [(0, 0xd7ff), (0xe000, 0x10ffff)]

theorem testBit_scalars {code : Nat} : scalars.testBit code = true ↔ IsScalar code := by
  simp only [scalars, testBit_ofRanges, Ranges.contains, List.any_cons, List.any_nil,
    Bool.or_false,
    Bool.or_eq_true, Bool.and_eq_true, decide_eq_true_eq, IsScalar]
  omega

theorem normalize_ofCodes (h : ∀ code ∈ codes, IsScalar code) :
    (ofCodes codes).normalize = ofGlyphs (normalizeGlyphs (codes.map Glyph.scalar)) := by
  rw [normalize, wholeGlyphs_ofCodes h]

/-- The normal form of characters of a set spells characters of the set, and it is stable. -/
theorem exists_normal_codes (hset : produced &&& set = produced)
    (hscalars : set &&& scalars = set) (h : ∀ code ∈ codes, set.testBit code = true) :
    ∃ normal, (ofCodes codes).normalize = ofCodes normal ∧
      (∀ code ∈ normal, set.testBit code = true) ∧
      (ofCodes normal).normalize = ofCodes normal := by
  have hscalar : ∀ code, set.testBit code = true → IsScalar code := fun code hcode =>
    testBit_scalars.mp (testBit_of_subset hscalars hcode)
  have hspelled : Spelled (set.testBit · = true) (codes.map Glyph.scalar) := by
    intro glyph hglyph
    obtain ⟨code, hcode, rfl⟩ := List.mem_map.mp hglyph
    exact ⟨code, rfl, h code hcode⟩
  obtain ⟨normal, hnormal, hcodes⟩ := (normalizeGlyphs_closed hset hspelled).exists_codes
  refine ⟨normal, ?_, hcodes, ?_⟩
  · rw [normalize_ofCodes fun code hcode => hscalar code (h code hcode), hnormal, ofGlyphs_scalar]
  · rw [normalize_ofCodes fun code hcode => hscalar code (hcodes code hcode), ← hnormal,
      normalizeGlyphs_normalizeGlyphs, hnormal, ofGlyphs_scalar]

end Text

end Typeflow
