import Mathlib.Algebra.Group.Nat.Defs
import Mathlib.Data.List.Chain
import Typeflow.Proofs.Text.Normal

/-!
Full decompositions. No code point takes more than three steps, so all parts of a decomposition
are atomic: they do not decompose further. Composing is the inverse, as far as it goes: what a
pair composes to has the decomposition of the first followed by that of the second.

Facts about the tables are stated for sets of code points. A set is a number, and a code point
belongs to it if the bit at its place is set.
-/

namespace Typeflow

namespace CodeSet

variable {code set set' : Nat} {codes : List Nat} {ranges : Ranges}

def ofList (codes : List Nat) : Nat := codes.foldr (fun code set => 1 <<< code ||| set) 0

def ofRanges (ranges : Ranges) : Nat :=
  ranges.foldr (fun (low, high) set => (2 ^ (high + 1 - low) - 1) <<< low ||| set) 0

theorem testBit_ofList : (ofList codes).testBit code = true ↔ code ∈ codes := by
  induction codes with
  | nil => simp [ofList]
  | cons first rest ih =>
    rw [ofList] at ih
    rw [ofList, List.foldr_cons, Nat.testBit_or, Bool.or_eq_true, ih, Nat.one_shiftLeft,
      Nat.testBit_two_pow, decide_eq_true_eq, List.mem_cons, eq_comm]

theorem testBit_ofRanges :
    (ofRanges ranges).testBit code = true ↔ ranges.contains code = true := by
  induction ranges with
  | nil => simp [ofRanges, Ranges.contains]
  | cons first rest ih =>
    obtain ⟨low, high⟩ := first
    rw [ofRanges] at ih
    rw [ofRanges, List.foldr_cons, Nat.testBit_or, Bool.or_eq_true, ih, Nat.testBit_shiftLeft,
      Nat.testBit_two_pow_sub_one]
    simp only [Ranges.contains, List.any_cons, Bool.or_eq_true, Bool.and_eq_true,
      decide_eq_true_eq]
    refine or_congr_left ?_
    omega

theorem testBit_range {low high : Nat} :
    (ofRanges [(low, high)]).testBit code = true ↔ low ≤ code ∧ code ≤ high := by
  simp [testBit_ofRanges, Ranges.contains]

theorem not_testBit_of_disjoint (h : set &&& set' = 0) (hset : set.testBit code = true) :
    set'.testBit code = false := by
  have hboth := congrArg (·.testBit code) h
  simpa [Nat.testBit_and, hset] using hboth

theorem testBit_of_subset (h : set &&& set' = set) (hset : set.testBit code = true) :
    set'.testBit code = true := by
  have hboth := congrArg (·.testBit code) h
  simpa [Nat.testBit_and, hset] using hboth

end CodeSet

open CodeSet

variable {code part : Nat}

theorem mem_of_find?_map {entries : List (Nat × Nat)}
    (h : (entries.find? (·.1 == code)).map (·.2) = some part) : (code, part) ∈ entries := by
  obtain ⟨entry, hfind, rfl⟩ := Option.map_eq_some_iff.mp h
  have hkey := List.find?_some hfind
  simp only [beq_iff_eq] at hkey
  rw [← hkey]
  exact List.mem_of_find?_eq_some hfind

section Steps

/-- The steps that lead to one code point. -/
def singleSteps : List (Nat × Nat) :=
  singleDecompositions ++ ideographDecompositions ++
    supplementIdeographs.zipIdx.map fun (part, index) => (supplementBase + index, part)

/-- All the steps of decomposition, with the parts that they lead to. -/
def steps : List (Nat × List Nat) :=
  pairDecompositions.map (fun (code, first, second) => (code, [first, second])) ++
    singleSteps.map fun (code, part) => (code, [part])

theorem mem_steps {parts : List Nat} (h : decomposeOnce code = some parts) :
    (code, parts) ∈ steps := by
  unfold decomposeOnce at h
  split at h
  · cases h
  · split at h
    · rename_i whole first second hfind
      cases h
      have hwhole := List.find?_some hfind
      simp only [beq_iff_eq] at hwhole
      subst hwhole
      exact List.mem_append_left _ (List.mem_map_of_mem (List.mem_of_find?_eq_some hfind))
    · obtain ⟨part, hpart, rfl⟩ := Option.map_eq_some_iff.mp h
      refine List.mem_append_right _ (List.mem_map.mpr ⟨(code, part), ?_, rfl⟩)
      simp only [singleSteps, List.mem_append]
      unfold decomposeSingle? at hpart
      split at hpart
      · exact Or.inl (Or.inl (mem_of_find?_map hpart))
      · split at hpart
        · exact Or.inl (Or.inr (mem_of_find?_map hpart))
        · refine Or.inr (List.mem_map.mpr ⟨(part, code - supplementBase), ?_, ?_⟩)
          · exact List.mem_zipIdx_iff_getElem?.mpr hpart
          · simp only [Prod.mk.injEq, and_true]
            omega

def decomposable : Nat := ofList (steps.map (·.1))

def decomposed : Nat := ofList (steps.flatMap (·.2))

/-- The code points with a step into the set. -/
def leadingInto (set : Nat) : Nat := ofList ((steps.filter (·.2.any set.testBit)).map (·.1))

/-- What the tables say, in one computation. No step is the first of more than three; the parts of
syllables do not decompose, and syllables stand in none of the tables; the pairs are in the order
of their code points. -/
theorem step_tables :
    leadingInto (leadingInto (leadingInto decomposable)) = 0 ∧
      decomposable &&& ofRanges [(0x1100, 0x11ff), (0xac00, 0xd7a3)] = 0 ∧
      decomposed &&& ofRanges [(0xac00, 0xd7a3)] = 0 ∧
      (∀ entry ∈ pairDecompositions, 0xc0 ≤ entry.1) ∧
      pairDecompositions.IsChain fun entry entry' => entry.1 < entry'.1 := by
  decide +kernel

theorem testBit_decomposable {parts : List Nat} (h : decomposeOnce code = some parts) :
    decomposable.testBit code = true :=
  testBit_ofList.mpr (List.mem_map.mpr ⟨_, mem_steps h, rfl⟩)

theorem testBit_decomposed {parts : List Nat} (h : decomposeOnce code = some parts)
    (hpart : part ∈ parts) : decomposed.testBit part = true :=
  testBit_ofList.mpr (List.mem_flatMap.mpr ⟨_, mem_steps h, hpart⟩)

theorem testBit_leadingInto {set : Nat} {parts : List Nat} (h : decomposeOnce code = some parts)
    (hpart : part ∈ parts) (hset : set.testBit part = true) :
    (leadingInto set).testBit code = true := by
  refine testBit_ofList.mpr (List.mem_map.mpr ⟨(code, parts), ?_, rfl⟩)
  exact List.mem_filter.mpr ⟨mem_steps h, List.any_eq_true.mpr ⟨part, hpart, hset⟩⟩

theorem decomposeOnce_eq_none (h : decomposable.testBit code = false) :
    decomposeOnce code = none := by
  cases honce : decomposeOnce code with
  | none => rfl
  | some parts =>
    rw [testBit_decomposable honce] at h
    cases h

theorem decomposeWithin_of_none (h : decomposeOnce code = none) (depth : Nat) :
    decomposeWithin depth code = [code] := by
  cases depth with
  | zero => rfl
  | succ depth => rw [decomposeWithin, h]

theorem decomposeWithin_of_some {parts : List Nat} (h : decomposeOnce code = some parts)
    (depth : Nat) : decomposeWithin (depth + 1) code = parts.flatMap (decomposeWithin depth) := by
  rw [decomposeWithin, h]

theorem mem_decomposeWithin {depth : Nat} (h : part ∈ decomposeWithin depth code) :
    part = code ∨ decomposed.testBit part = true := by
  induction depth generalizing code with
  | zero => exact Or.inl (List.mem_singleton.mp h)
  | succ depth ih =>
    rw [decomposeWithin] at h
    split at h
    · rename_i parts hparts
      obtain ⟨middle, hmiddle, hpart⟩ := List.mem_flatMap.mp h
      rcases ih hpart with rfl | hdecomposed
      · exact Or.inr (testBit_decomposed hparts hmiddle)
      · exact Or.inr hdecomposed
    · exact Or.inl (List.mem_singleton.mp h)

end Steps

section Complete

variable {depth : Nat}

/-- No part is left that a step decomposes. -/
def Complete (depth code : Nat) : Prop :=
  ∀ part ∈ decomposeWithin depth code, decomposeOnce part = none

theorem Complete.decomposeWithin_succ (h : Complete depth code) :
    decomposeWithin (depth + 1) code = decomposeWithin depth code := by
  induction depth generalizing code with
  | zero => exact decomposeWithin_of_none (h code List.mem_cons_self) 1
  | succ depth ih =>
    cases honce : decomposeOnce code with
    | none => rw [decomposeWithin_of_none honce, decomposeWithin_of_none honce]
    | some parts =>
      rw [Complete, decomposeWithin_of_some honce] at h
      rw [decomposeWithin_of_some honce, decomposeWithin_of_some honce]
      refine List.flatMap_congr fun part hpart => ih fun deeper hdeeper => ?_
      exact h deeper (List.mem_flatMap.mpr ⟨part, hpart, hdeeper⟩)

/-- One more step completes what leads to completed parts only. -/
theorem complete_succ {set : Nat}
    (hset : ∀ code, set.testBit code = false → Complete depth code)
    (hcode : (leadingInto set).testBit code = false) : Complete (depth + 1) code := by
  intro part hpart
  rw [decomposeWithin] at hpart
  split at hpart
  · rename_i parts hparts
    obtain ⟨middle, hmiddle, hpart⟩ := List.mem_flatMap.mp hpart
    refine hset middle ?_ part hpart
    rw [← Bool.not_eq_true] at hcode ⊢
    exact fun htest => hcode (testBit_leadingInto hparts hmiddle htest)
  · rename_i hnone
    rw [List.mem_singleton.mp hpart]
    exact hnone

theorem complete (code : Nat) : Complete 3 code := by
  obtain ⟨hdeepest, -⟩ := step_tables
  have hzero : ∀ code, decomposable.testBit code = false → Complete 0 code := by
    intro code hcode part hpart
    rw [List.mem_singleton.mp hpart]
    exact decomposeOnce_eq_none hcode
  -- What is not complete after three steps leads by three steps to what decomposes.
  refine complete_succ (fun _ => complete_succ fun _ => complete_succ hzero) ?_
  rw [hdeepest, Nat.zero_testBit]

theorem decomposeWithin_three (code : Nat) : decomposeWithin 3 code = decomposeWithin 4 code :=
  (complete code).decomposeWithin_succ.symm

end Complete

section Atomic

/-- A code point that is its own decomposition. -/
def Atomic (code : Nat) : Prop := decompose code = [code]

theorem isSyllable_iff : Hangul.isSyllable code = true ↔ 0xac00 ≤ code ∧ code ≤ 0xd7a3 := by
  have hlast : Hangul.syllableBase + Hangul.syllableCount = 0xd7a4 := rfl
  simp only [Hangul.isSyllable, Bool.and_eq_true, decide_eq_true_eq, hlast]
  rw [Hangul.syllableBase]
  omega

theorem atomic_of_none (hsyllable : Hangul.isSyllable code = false)
    (h : decomposeOnce code = none) : Atomic code := by
  rw [Atomic, decompose, hsyllable, if_neg Bool.false_ne_true, decomposeWithin_of_none h]

/-- No step decomposes a syllable or its parts. -/
theorem not_range_of_decomposable (h : decomposable.testBit code = true) :
    ¬ (0x1100 ≤ code ∧ code ≤ 0x11ff) ∧ ¬ (0xac00 ≤ code ∧ code ≤ 0xd7a3) := by
  obtain ⟨-, hranges, -⟩ := step_tables
  have hset := not_testBit_of_disjoint hranges h
  rw [← Bool.not_eq_true, testBit_ofRanges] at hset
  simpa [Ranges.contains, not_or] using hset

theorem atomic_of_jamo (hlow : 0x1100 ≤ code) (hhigh : code ≤ 0x11ff) : Atomic code := by
  refine atomic_of_none ?_ (decomposeOnce_eq_none ?_)
  · rw [← Bool.not_eq_true, isSyllable_iff]
    omega
  · rw [← Bool.not_eq_true]
    exact fun hcode => (not_range_of_decomposable hcode).1 ⟨hlow, hhigh⟩

/-- No step leads to a syllable. -/
theorem isSyllable_of_decomposed (h : decomposed.testBit code = true) :
    Hangul.isSyllable code = false := by
  obtain ⟨-, -, hsyllables, -⟩ := step_tables
  have hrange := not_testBit_of_disjoint hsyllables h
  rw [← Bool.not_eq_true, isSyllable_iff, ← testBit_range, hrange]
  exact Bool.false_ne_true

theorem atomic_of_mem_decompose (h : part ∈ decompose code) : Atomic part := by
  unfold decompose at h
  split at h
  · rename_i hsyllable
    obtain ⟨hlow, hhigh⟩ := hangul_decompose_bounds hsyllable part h
    exact atomic_of_jamo hlow hhigh
  · rename_i hsyllable
    rw [← decomposeWithin_three] at h
    refine atomic_of_none ?_ (complete code part h)
    rcases mem_decomposeWithin h with rfl | hdecomposed
    · exact Bool.eq_false_iff.mpr hsyllable
    · exact isSyllable_of_decomposed hdecomposed

end Atomic

section Composite

variable {first second whole : Nat}

theorem composePair?_eq_some (h : composePair? first second = some whole) :
    Hangul.compose? first second = some whole ∨
      (whole, first, second) ∈ pairDecompositions ∧
        compositionExclusions.contains whole = false := by
  unfold composePair? at h
  split at h
  · rename_i hcompose
    exact Or.inl (hcompose.trans h)
  · obtain ⟨⟨found, a, b⟩, hfind, rfl⟩ := Option.map_eq_some_iff.mp h
    have hpair := List.find?_some hfind
    simp only [Bool.and_eq_true, beq_iff_eq, Bool.not_eq_true'] at hpair
    obtain ⟨⟨rfl, rfl⟩, hexcluded⟩ := hpair
    exact Or.inr ⟨List.mem_of_find?_eq_some hfind, hexcluded⟩

theorem find?_of_mem {entries : List (Nat × Nat × Nat)}
    (hsorted : entries.Pairwise fun entry entry' => entry.1 < entry'.1)
    {entry : Nat × Nat × Nat} (h : entry ∈ entries) :
    entries.find? (·.1 == entry.1) = some entry := by
  induction entries with
  | nil => cases h
  | cons head rest ih =>
    obtain ⟨hhead, hrest⟩ := List.pairwise_cons.mp hsorted
    rcases List.mem_cons.mp h with rfl | hmem
    · simp
    · have hne : (head.1 == entry.1) = false := by
        have hlt := hhead entry hmem
        rw [beq_eq_false_iff_ne]
        omega
      rw [List.find?_cons, hne]
      exact ih hrest hmem

/-- Every pair of the table is a step: no code point stands there twice. -/
theorem decomposeOnce_of_pair (h : (whole, first, second) ∈ pairDecompositions) :
    decomposeOnce whole = some [first, second] := by
  obtain ⟨-, -, -, hlow, hchain⟩ := step_tables
  have hpairwise : pairDecompositions.Pairwise fun entry entry' => entry.1 < entry'.1 :=
    List.isChain_iff_pairwise.mp hchain
  have hfind := find?_of_mem hpairwise h
  rw [decomposeOnce, if_neg (Nat.not_lt.mpr (hlow _ h)), hfind]

/-- A pair of the table has the parts of the first and then those of the second. -/
theorem decompose_of_pair (h : (whole, first, second) ∈ pairDecompositions) :
    decompose whole = decompose first ++ decompose second := by
  have honce := decomposeOnce_of_pair h
  have hwhole : Hangul.isSyllable whole = false := by
    rw [← Bool.not_eq_true, isSyllable_iff]
    exact (not_range_of_decomposable (testBit_decomposable honce)).2
  have hfirst := isSyllable_of_decomposed (testBit_decomposed honce List.mem_cons_self)
  have hsecond : Hangul.isSyllable second = false :=
    isSyllable_of_decomposed (testBit_decomposed honce (by simp))
  rw [decompose, decompose, decompose, hwhole, hfirst, hsecond]
  simp only [Bool.false_eq_true, if_false]
  rw [decomposeWithin_of_some honce, ← decomposeWithin_three first,
    ← decomposeWithin_three second, List.flatMap_cons, List.flatMap_singleton]

theorem hangul_decompose_open (index : Nat) (h : index % 28 = 0) :
    Hangul.decompose (0xac00 + index) = [0x1100 + index / 588, 0x1161 + index % 588 / 28] := by
  have hindex : 0xac00 + index - Hangul.syllableBase = index := Nat.add_sub_cancel_left ..
  have htrail : (index % Hangul.trailCount == 0) = true := beq_iff_eq.mpr h
  simp only [Hangul.decompose, hindex, htrail, if_true]
  rfl

theorem hangul_decompose_closed (index : Nat) (h : index % 28 ≠ 0) :
    Hangul.decompose (0xac00 + index) =
      [0x1100 + index / 588, 0x1161 + index % 588 / 28, 0x11a7 + index % 28] := by
  have hindex : 0xac00 + index - Hangul.syllableBase = index := Nat.add_sub_cancel_left ..
  have htrail : (index % Hangul.trailCount == 0) = false := beq_eq_false_iff_ne.mpr h
  simp only [Hangul.decompose, hindex, htrail, if_false, Bool.false_eq_true]
  rfl

/-- What composes to a syllable: its parts, the last one by itself. -/
theorem hangul_compose?_eq_some (h : Hangul.compose? first second = some whole) :
    Hangul.isSyllable whole = true ∧ (0x1100 ≤ second ∧ second ≤ 0x11ff) ∧
      ((0x1100 ≤ first ∧ first ≤ 0x11ff) ∧ Hangul.decompose whole = [first, second] ∨
        Hangul.isSyllable first = true ∧
          Hangul.decompose whole = Hangul.decompose first ++ [second]) := by
  unfold Hangul.compose? at h
  split at h
  · -- A leading consonant and a vowel.
    rename_i hparts
    simp only [Hangul.isLead, Hangul.isVowel, Bool.and_eq_true, decide_eq_true_eq] at hparts
    simp only [Hangul.syllableBase, Hangul.leadBase, Hangul.vowelBase, Hangul.leadCount,
      Hangul.vowelCount, Hangul.trailCount, Option.some.injEq] at h hparts
    rw [← h, isSyllable_iff, hangul_decompose_open _ (by omega)]
    refine ⟨by omega, by omega, Or.inl ⟨by omega, ?_⟩⟩
    simp only [List.cons.injEq, and_true]
    omega
  · split at h
    · -- A syllable without a trailing consonant, and the consonant.
      rename_i hparts
      simp only [Hangul.isOpenSyllable, Hangul.isTrail, isSyllable_iff, Bool.and_eq_true,
        beq_iff_eq, decide_eq_true_eq] at hparts
      simp only [Hangul.syllableBase, Hangul.trailBase, Hangul.trailCount,
        Option.some.injEq] at h hparts
      obtain ⟨index, rfl⟩ : ∃ index, first = 0xac00 + index := ⟨first - 0xac00, by omega⟩
      have hwhole : whole = 0xac00 + (index + (second - 0x11a7)) := by omega
      rw [hwhole, isSyllable_iff, isSyllable_iff, hangul_decompose_closed _ (by omega),
        hangul_decompose_open _ (by omega)]
      refine ⟨by omega, by omega, Or.inr ⟨by omega, ?_⟩⟩
      simp only [List.cons_append, List.nil_append, List.cons.injEq, and_true]
      omega
    · cases h

/-- What a pair composes to has the parts of the first and then those of the second. -/
theorem decompose_of_composePair? (h : composePair? first second = some whole) :
    decompose whole = decompose first ++ decompose second := by
  rcases composePair?_eq_some h with hcompose | ⟨hpair, -⟩
  · obtain ⟨hwhole, hsecond, hfirst⟩ := hangul_compose?_eq_some hcompose
    have hatomic : decompose second = [second] := atomic_of_jamo hsecond.1 hsecond.2
    rw [decompose, if_pos hwhole, hatomic]
    rcases hfirst with ⟨hjamo, heq⟩ | ⟨hsyllable, heq⟩
    · have hfirst : decompose first = [first] := atomic_of_jamo hjamo.1 hjamo.2
      rw [heq, hfirst, List.singleton_append]
    · rw [heq, decompose, if_pos hsyllable]
  · exact decompose_of_pair hpair

end Composite

end Typeflow
