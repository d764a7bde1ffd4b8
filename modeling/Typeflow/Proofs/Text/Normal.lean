import Typeflow.Proofs.Text.Utf8
import Typeflow.Text.Digit
import Typeflow.Text.Letter
import Typeflow.Text.Normal

/-!
The normal form of names. The characters that stand between the names of a printed type never come
out of normalizing a name: no letter or digit decomposes to one, and nothing composes to one. Two
signs do decompose to one, and they are no letters. The normal form of a name is not empty either.
-/

namespace Typeflow

/-- The characters that stand between the names of a printed type. -/
def delimiters : List Nat := [0x20, 0x28, 0x29, 0x2c, 0x2d, 0x3c, 0x3e]

/-- Signs that decompose to a delimiter and a mark. -/
def strokedDelimiters : List Nat := [0x226e, 0x226f]

def Plain (code : Nat) : Prop := code < 0x110000 ∧ code ∉ delimiters

/-- A code point that is no delimiter and does not decompose to one. -/
def Inert (code : Nat) : Prop := Plain code ∧ code ∉ strokedDelimiters

section Tables

variable {code : Nat}

/-- Ranges without a delimiter and without a sign that decomposes to one. -/
def inertRanges : Ranges :=
  [(0x3f, 0x226d), (0x2270, 0x10ffff), (0x2e, 0x3b), (0x3d, 0x3d)]

def isInert (range : Nat × Nat) : Bool :=
  inertRanges.any fun (low, high) => Nat.ble low range.1 && Nat.ble range.2 high

theorem inert_of_isInert {range : Nat × Nat} (h : isInert range = true) (hlow : range.1 ≤ code)
    (hhigh : code ≤ range.2) : Inert code := by
  simp only [isInert, inertRanges, List.any_cons, List.any_nil, Bool.or_eq_true, Bool.and_eq_true,
    Nat.ble_eq, Bool.false_eq_true, or_false] at h
  refine ⟨⟨by omega, ?_⟩, ?_⟩
  · simp only [delimiters, List.mem_cons, List.not_mem_nil, or_false]
    omega
  · simp only [strokedDelimiters, List.mem_cons, List.not_mem_nil, or_false]
    omega

theorem inert_of_isInert_self (h : isInert (code, code) = true) : Inert code :=
  inert_of_isInert h (Nat.le_refl _) (Nat.le_refl _)

theorem inert_of_contains {ranges : Ranges} (h : ranges.all isInert = true)
    (hcode : ranges.contains code = true) : Inert code := by
  obtain ⟨range, hrange, hbounds⟩ := List.any_eq_true.mp hcode
  simp only [Bool.and_eq_true, decide_eq_true_eq] at hbounds
  exact inert_of_isInert (List.all_eq_true.mp h range hrange) hbounds.1 hbounds.2

theorem inert_of_isLetter (h : isLetter code = true) : Inert code :=
  inert_of_contains (by decide +kernel) h

theorem inert_of_isDecimalDigit (h : isDecimalDigit code = true) : Inert code :=
  inert_of_contains (by decide +kernel) h

theorem inert_of_mem_table {table : List Nat}
    (h : table.all (fun code => isInert (code, code)) = true) (hcode : code ∈ table) :
    Inert code :=
  inert_of_isInert_self (List.all_eq_true.mp h code hcode)

theorem inert_of_decomposeSingle? {part : Nat} (h : decomposeSingle? code = some part) :
    Inert part := by
  have hsingle : (singleDecompositions.map (·.2)).all (fun code => isInert (code, code)) =
      true := by decide +kernel
  have hideograph : (ideographDecompositions.map (·.2)).all (fun code => isInert (code, code)) =
      true := by decide +kernel
  have hsupplement : supplementIdeographs.all (fun code => isInert (code, code)) = true := by
    decide +kernel
  unfold decomposeSingle? at h
  split at h
  · obtain ⟨entry, hentry, rfl⟩ := Option.map_eq_some_iff.mp h
    exact inert_of_mem_table hsingle (List.mem_map_of_mem (List.mem_of_find?_eq_some hentry))
  · split at h
    · obtain ⟨entry, hentry, rfl⟩ := Option.map_eq_some_iff.mp h
      exact inert_of_mem_table hideograph (List.mem_map_of_mem (List.mem_of_find?_eq_some hentry))
    · exact inert_of_mem_table hsupplement (List.mem_of_getElem? h)

/-- A pair of the table is inert unless it belongs to a stroked delimiter, and its whole is plain.
-/
theorem pairDecompositions_inert {entry : Nat × Nat × Nat} (h : entry ∈ pairDecompositions) :
    Plain entry.1 ∧ (Inert entry.1 → Inert entry.2.1 ∧ Inert entry.2.2) := by
  have hall : pairDecompositions.all (fun entry =>
      isInert (entry.1, entry.1) && isInert (entry.2.1, entry.2.1) &&
        isInert (entry.2.2, entry.2.2) || strokedDelimiters.contains entry.1) = true := by
    decide +kernel
  have hentry := List.all_eq_true.mp hall entry h
  simp only [Bool.or_eq_true, Bool.and_eq_true, List.contains_iff_mem] at hentry
  rcases hentry with ⟨⟨hwhole, hfirst⟩, hsecond⟩ | hstroked
  · exact ⟨(inert_of_isInert_self hwhole).1,
      fun _ => ⟨inert_of_isInert_self hfirst, inert_of_isInert_self hsecond⟩⟩
  · refine ⟨?_, fun hinert => absurd hstroked hinert.2⟩
    simp only [strokedDelimiters, List.mem_cons, List.not_mem_nil, or_false] at hstroked
    refine ⟨by omega, ?_⟩
    simp only [delimiters, List.mem_cons, List.not_mem_nil, or_false]
    omega

theorem inert_of_decomposeOnce {parts : List Nat} (hcode : Inert code)
    (h : decomposeOnce code = some parts) : ∀ part ∈ parts, Inert part := by
  unfold decomposeOnce at h
  split at h
  · cases h
  · split at h
    · rename_i whole first second hfind
      cases h
      have hwhole := List.find?_some hfind
      simp only [beq_iff_eq] at hwhole
      subst hwhole
      have hpair := (pairDecompositions_inert (List.mem_of_find?_eq_some hfind)).2 hcode
      simpa using hpair
    · obtain ⟨part, hpart, rfl⟩ := Option.map_eq_some_iff.mp h
      simpa using inert_of_decomposeSingle? hpart

theorem inert_of_decomposeWithin {depth : Nat} (hcode : Inert code) :
    ∀ part ∈ decomposeWithin depth code, Inert part := by
  induction depth generalizing code with
  | zero => simpa [decomposeWithin] using hcode
  | succ depth ih =>
    intro part hpart
    rw [decomposeWithin] at hpart
    split at hpart
    · rename_i parts hparts
      obtain ⟨middle, hmiddle, hpart⟩ := List.mem_flatMap.mp hpart
      exact ih (inert_of_decomposeOnce hcode hparts middle hmiddle) part hpart
    · rw [List.mem_singleton.mp hpart]
      exact hcode

theorem decomposeWithin_ne_nil (depth code : Nat) : decomposeWithin depth code ≠ [] := by
  induction depth generalizing code with
  | zero => simp [decomposeWithin]
  | succ depth ih =>
    rw [decomposeWithin]
    split
    · rename_i parts hparts
      unfold decomposeOnce at hparts
      split at hparts
      · cases hparts
      · split at hparts
        · cases hparts
          simp [ih]
        · obtain ⟨part, -, rfl⟩ := Option.map_eq_some_iff.mp hparts
          simp [ih]
    · simp

theorem hangul_decompose_bounds (h : Hangul.isSyllable code = true) :
    ∀ part ∈ Hangul.decompose code, 0x1100 ≤ part ∧ part ≤ 0x11ff := by
  have hindex : code - Hangul.syllableBase < 11172 := by
    simp only [Hangul.isSyllable, Bool.and_eq_true, decide_eq_true_eq] at h
    have hcount : Hangul.syllableCount = 11172 := rfl
    omega
  unfold Hangul.decompose
  generalize code - Hangul.syllableBase = index at hindex
  intro part hpart
  simp only at hpart
  split at hpart <;>
    simp only [Hangul.leadBase, Hangul.vowelBase, Hangul.trailBase, Hangul.vowelCount,
      Hangul.trailCount, List.mem_cons, List.not_mem_nil, or_false] at hpart <;>
    omega

/-- Parts of a syllable compose in the block of syllables. -/
theorem hangul_compose?_bounds {first second whole : Nat}
    (h : Hangul.compose? first second = some whole) : 0xac00 ≤ whole ∧ whole ≤ 0xd7ff := by
  unfold Hangul.compose? at h
  split at h
  · rename_i hparts
    simp only [Hangul.isLead, Hangul.isVowel, Bool.and_eq_true, decide_eq_true_eq] at hparts
    simp only [Hangul.syllableBase, Hangul.leadBase, Hangul.vowelBase, Hangul.leadCount,
      Hangul.vowelCount, Hangul.trailCount, Option.some.injEq] at h hparts
    omega
  · split at h
    · rename_i hparts
      simp only [Hangul.isOpenSyllable, Hangul.isSyllable, Hangul.isTrail, Bool.and_eq_true,
        decide_eq_true_eq, beq_iff_eq] at hparts
      simp only [Hangul.syllableBase, Hangul.trailBase, Hangul.syllableCount, Hangul.leadCount,
        Hangul.vowelCount, Hangul.trailCount, Option.some.injEq] at h hparts
      omega
    · cases h

theorem inert_of_decompose (hcode : Inert code) : ∀ part ∈ decompose code, Inert part := by
  have hblock : isInert (0x1100, 0x11ff) = true := by decide
  unfold decompose
  split
  · rename_i hsyllable
    intro part hpart
    obtain ⟨hlow, hhigh⟩ := hangul_decompose_bounds hsyllable part hpart
    exact inert_of_isInert hblock hlow hhigh
  · exact inert_of_decomposeWithin hcode

theorem decompose_ne_nil (code : Nat) : decompose code ≠ [] := by
  unfold decompose
  split
  · unfold Hangul.decompose
    simp only
    split <;> simp
  · exact decomposeWithin_ne_nil 4 code

/-- Nothing composes to a delimiter. -/
theorem plain_of_composePair? {first second whole : Nat}
    (h : composePair? first second = some whole) : Plain whole := by
  unfold composePair? at h
  split at h
  · rename_i syllable hcompose
    cases h
    obtain ⟨hlow, hhigh⟩ := hangul_compose?_bounds hcompose
    have hblock : isInert (0xac00, 0xd7ff) = true := by decide
    exact (inert_of_isInert hblock hlow hhigh).1
  · obtain ⟨entry, hfind, rfl⟩ := Option.map_eq_some_iff.mp h
    exact (pairDecompositions_inert (List.mem_of_find?_eq_some hfind)).1

end Tables

namespace Normal

open Glyph

/-- All glyphs are characters with the property. -/
def Spelled (holds : Nat → Prop) (glyphs : List Glyph) : Prop :=
  ∀ glyph ∈ glyphs, ∃ code, glyph = scalar code ∧ holds code

variable {holds : Nat → Prop} {glyphs marks : List Glyph} {pending : Open}

theorem breakRuns_spelled (hjoiner : holds joiner) (h : Spelled holds glyphs) (run : Nat) :
    Spelled holds (breakRuns run glyphs) := by
  induction glyphs generalizing run with
  | nil => exact h
  | cons glyph rest ih =>
    obtain ⟨hglyph, hrest⟩ := List.forall_mem_cons.mp h
    obtain ⟨code, rfl, hcode⟩ := hglyph
    rw [breakRuns]
    simp only
    split
    · exact List.forall_mem_cons.mpr ⟨⟨_, rfl, hjoiner⟩,
        List.forall_mem_cons.mpr ⟨⟨_, rfl, hcode⟩, ih hrest _⟩⟩
    · exact List.forall_mem_cons.mpr ⟨⟨_, rfl, hcode⟩, ih hrest _⟩

theorem breakRuns_ne_nil (h : glyphs ≠ []) (run : Nat) : breakRuns run glyphs ≠ [] := by
  cases glyphs with
  | nil => exact absurd rfl h
  | cons glyph rest =>
    cases glyph with
    | stray byte => simp [breakRuns]
    | scalar code =>
      rw [breakRuns]
      simp only
      split <;> simp

theorem insertMark_perm (mark : Glyph) (marks : List Glyph) :
    (insertMark mark marks).Perm (mark :: marks) := by
  unfold insertMark
  refine List.perm_middle.trans ?_
  rw [List.takeWhile_append_dropWhile]

theorem sortMarks_perm (marks glyphs : List Glyph) :
    (sortMarks marks glyphs).Perm (marks ++ glyphs) := by
  induction glyphs generalizing marks with
  | nil => simp [sortMarks]
  | cons glyph rest ih =>
    rw [sortMarks]
    split
    · exact ((ih []).cons glyph).append_left marks
    · refine (ih _).trans (((insertMark_perm glyph marks).append_right rest).trans ?_)
      exact List.perm_middle.symm

theorem Open.compose?_eq_some {code whole : Nat} (h : pending.compose? code = some whole) :
    ∃ starter, pending.starter = some starter ∧ composePair? starter code = some whole := by
  unfold Open.compose? at h
  split at h
  · rename_i starter hstarter
    split at h
    · exact ⟨starter, hstarter, h⟩
    · cases h
  · cases h

theorem Open.mem_glyphs {glyph : Glyph} : glyph ∈ pending.glyphs ↔
    (∃ starter, pending.starter = some starter ∧ scalar starter = glyph) ∨
      glyph ∈ pending.kept := by
  simp [Open.glyphs]

theorem composeFrom_spelled (hcompose : ∀ first second whole,
    composePair? first second = some whole → holds whole)
    (hpending : Spelled holds pending.glyphs) (h : Spelled holds glyphs) :
    Spelled holds (composeFrom pending glyphs) := by
  induction glyphs generalizing pending with
  | nil => exact hpending
  | cons glyph rest ih =>
    obtain ⟨hglyph, hrest⟩ := List.forall_mem_cons.mp h
    obtain ⟨code, rfl, hcode⟩ := hglyph
    rw [composeFrom]
    split
    · rename_i whole hwhole
      obtain ⟨starter, -, hpair⟩ := Open.compose?_eq_some hwhole
      refine ih (fun glyph hglyph => ?_) hrest
      rcases Open.mem_glyphs.mp hglyph with ⟨_, hwhole, rfl⟩ | hkept
      · cases hwhole
        exact ⟨whole, rfl, hcompose _ _ _ hpair⟩
      · exact hpending glyph (Open.mem_glyphs.mpr (Or.inr hkept))
    · split
      · refine List.forall_mem_append.mpr ⟨hpending, ih ?_ hrest⟩
        simpa [Open.glyphs, Spelled] using hcode
      · refine ih (fun glyph hglyph => ?_) hrest
        rcases Open.mem_glyphs.mp hglyph with hstarter | hkept
        · exact hpending glyph (Open.mem_glyphs.mpr (Or.inl hstarter))
        · rcases List.mem_cons.mp hkept with rfl | hkept
          · exact ⟨code, rfl, hcode⟩
          · exact hpending glyph (Open.mem_glyphs.mpr (Or.inr hkept))

theorem composeFrom_ne_nil (h : pending.glyphs ≠ [] ∨ glyphs ≠ []) :
    composeFrom pending glyphs ≠ [] := by
  induction glyphs generalizing pending with
  | nil =>
    rw [composeFrom]
    simpa using h
  | cons glyph rest ih =>
    cases glyph with
    | stray byte => simp [composeFrom]
    | scalar code =>
      rw [composeFrom]
      split
      · exact ih (Or.inl (by simp [Open.glyphs]))
      · split
        · have hrest : composeFrom ⟨some code, []⟩ rest ≠ [] :=
            ih (Or.inl (by simp [Open.glyphs]))
          simp [hrest]
        · exact ih (Or.inl (by simp [Open.glyphs]))

theorem wholeGlyphsFrom_append (front rest : Text) :
    wholeGlyphsFrom front.length (front ++ rest) = wholeGlyphsFrom 0 rest := by
  induction front with
  | nil => rfl
  | cons byte front ih => exact ih

/-- The first byte of a character promises the bytes that it has. -/
theorem promisedWidth_of_encode {code : Nat} {lead : UInt8} {more : Text} (hcode : IsScalar code)
    (h : Text.encode code = lead :: more) : promisedWidth lead = more.length + 1 := by
  have hread := character?_eq_some_iff.mp (character?_of_encode hcode h [])
  have hwidth : lead.toNat < 0x80 ∧ more.length = 0 ∨
      (0xc2 ≤ lead.toNat ∧ lead.toNat < 0xe0) ∧ more.length = 1 ∨
      (0xe0 ≤ lead.toNat ∧ lead.toNat < 0xf0) ∧ more.length = 2 ∨
      (0xf0 ≤ lead.toNat ∧ lead.toNat < 0xf5) ∧ more.length = 3 := by
    rcases hread with ⟨hlead, -, htaken⟩ | ⟨_, _, -, hlead, -, -, htaken⟩ |
      ⟨_, _, _, -, hlead, -, -, -, htaken⟩ | ⟨_, _, _, _, -, hlead, -, -, -, -, htaken⟩
    · exact Or.inl ⟨hlead, htaken⟩
    · exact Or.inr (Or.inl ⟨hlead, htaken⟩)
    · exact Or.inr (Or.inr (Or.inl ⟨hlead, htaken⟩))
    · exact Or.inr (Or.inr (Or.inr ⟨hlead, htaken⟩))
  unfold promisedWidth
  simp only [UInt8.lt_iff_toNat_lt, UInt8.reduceToNat]
  repeat' split
  all_goals omega

/-- No character of a text that spells characters is cut off. -/
theorem wholeGlyphs_ofCodes {codes : List Nat} (h : ∀ code ∈ codes, IsScalar code) :
    wholeGlyphs (Text.ofCodes codes) = codes.map scalar := by
  induction codes with
  | nil => rfl
  | cons code rest ih =>
    obtain ⟨hcode, hrest⟩ := List.forall_mem_cons.mp h
    obtain ⟨lead, more, hencode⟩ := List.exists_cons_of_ne_nil (Text.encode_ne_nil code)
    have hread := character?_of_encode hcode hencode (Text.ofCodes rest)
    have hwhole : (lead :: (more ++ Text.ofCodes rest)).drop (promisedWidth lead - 1) ≠ [] := by
      rw [promisedWidth_of_encode hcode hencode, ne_eq, List.drop_eq_nil_iff]
      simp only [List.length_cons, List.length_append]
      omega
    rw [Text.ofCodes_cons, hencode, List.cons_append, wholeGlyphs, wholeGlyphsFrom, if_neg hwhole,
      hread]
    simp only
    rw [wholeGlyphsFrom_append, List.map_cons]
    exact congrArg _ (ih hrest)

/-- What holds of characters and passes to their parts, and of what pairs compose to, holds of all
characters of the normal form. -/
theorem normalizeGlyphs_spelled_of {spelled composed : Nat → Prop} (hjoiner : spelled joiner)
    (hparts : ∀ code, spelled code → ∀ part ∈ decompose code, spelled part)
    (hkept : ∀ code, spelled code → composed code)
    (hwhole : ∀ first second whole, composePair? first second = some whole → composed whole)
    (h : Spelled spelled glyphs) : Spelled composed (normalizeGlyphs glyphs) := by
  have hbroken := breakRuns_spelled hjoiner h 0
  have hdecomposed : Spelled spelled ((breakRuns 0 glyphs).flatMap decomposeGlyph) := by
    intro glyph hglyph
    obtain ⟨whole, hwhole, hglyph⟩ := List.mem_flatMap.mp hglyph
    obtain ⟨code, rfl, hcode⟩ := hbroken whole hwhole
    obtain ⟨part, hpart, rfl⟩ := List.mem_map.mp hglyph
    exact ⟨part, rfl, hparts code hcode part hpart⟩
  have hclosed : Spelled composed (Open.mk none []).glyphs := by simp [Open.glyphs, Spelled]
  refine composeFrom_spelled hwhole hclosed ?_
  intro glyph hglyph
  obtain ⟨code, rfl, hcode⟩ := hdecomposed glyph ((sortMarks_perm [] _).mem_iff.mp hglyph)
  exact ⟨code, rfl, hkept code hcode⟩

/-- Normalizing inert characters gives characters that are no delimiters. -/
theorem normalizeGlyphs_spelled (h : Spelled Inert glyphs) :
    Spelled Plain (normalizeGlyphs glyphs) := by
  have hjoiner : Inert joiner := inert_of_isInert_self (by decide)
  exact normalizeGlyphs_spelled_of hjoiner (fun _ => inert_of_decompose) (fun _ hcode => hcode.1)
    (fun _ _ _ => plain_of_composePair?) h

theorem normalizeGlyphs_ne_nil (h : glyphs ≠ []) : normalizeGlyphs glyphs ≠ [] := by
  refine composeFrom_ne_nil (Or.inr fun hnil => ?_)
  have hperm := sortMarks_perm [] ((breakRuns 0 glyphs).flatMap decomposeGlyph)
  rw [hnil, List.nil_append] at hperm
  obtain ⟨glyph, hglyph⟩ := List.exists_mem_of_ne_nil _ (breakRuns_ne_nil h 0)
  have hparts := List.flatMap_eq_nil_iff.mp hperm.nil_eq.symm glyph hglyph
  cases glyph with
  | stray byte => cases hparts
  | scalar code => exact decompose_ne_nil code (List.map_eq_nil_iff.mp hparts)

end Normal

namespace Text

/-- The bytes of a character that is no delimiter. -/
theorem not_delimiter_of_mem_encode {code : Nat} {byte : UInt8} (hcode : Plain code)
    (h : byte ∈ encode code) : byte.toNat ∉ delimiters := by
  obtain ⟨hbound, hplain⟩ := hcode
  have hlarge : ∀ n, 0x80 ≤ n → n < 256 → n.toUInt8.toNat ∉ delimiters := by
    intro n hlow hhigh
    rw [Glyph.toNat_toUInt8 hhigh]
    simp only [delimiters, List.mem_cons, List.not_mem_nil, or_false]
    omega
  unfold encode at h
  split at h
  · rw [List.mem_singleton.mp h, Glyph.toNat_toUInt8 (by omega)]
    exact hplain
  · repeat' split at h
    all_goals
      simp only [List.mem_cons, List.not_mem_nil, or_false] at h
      rcases h with rfl | rfl | rfl | rfl <;> exact hlarge _ (by omega) (by omega)

/-- The normal form of inert characters is not empty and holds no delimiter. -/
theorem normalize_inert {codes : List Nat} (hne : codes ≠ [])
    (hcodes : ∀ code ∈ codes, IsScalar code ∧ Inert code) :
    (ofCodes codes).normalize ≠ [] ∧
      ∀ byte ∈ (ofCodes codes).normalize, byte.toNat ∉ delimiters := by
  have hspelled : Normal.Spelled Inert (codes.map Glyph.scalar) := by
    intro glyph hglyph
    obtain ⟨code, hcode, rfl⟩ := List.mem_map.mp hglyph
    exact ⟨code, rfl, (hcodes code hcode).2⟩
  have hplain := Normal.normalizeGlyphs_spelled hspelled
  unfold normalize
  rw [Normal.wholeGlyphs_ofCodes fun code hcode => (hcodes code hcode).1]
  constructor
  · have hglyphs : codes.map Glyph.scalar ≠ [] := by simpa using hne
    have hnormal := Normal.normalizeGlyphs_ne_nil hglyphs
    obtain ⟨glyph, hglyph⟩ := List.exists_mem_of_ne_nil _ hnormal
    obtain ⟨code, rfl, -⟩ := hplain glyph hglyph
    intro hnil
    exact encode_ne_nil code (List.flatMap_eq_nil_iff.mp hnil _ hglyph)
  · intro byte hbyte
    obtain ⟨glyph, hglyph, hbyte⟩ := List.mem_flatMap.mp hbyte
    obtain ⟨code, rfl, hcode⟩ := hplain glyph hglyph
    exact not_delimiter_of_mem_encode hcode hbyte

end Text

end Typeflow
