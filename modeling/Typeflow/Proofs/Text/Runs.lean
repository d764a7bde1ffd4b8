import Mathlib.Data.List.TakeWhile
import Typeflow.Proofs.Text.Reordering

/-!
Runs of attaching characters. A list fits if no run in it is too long, and then it gets no
joiners; with the joiners put in every list fits. Whether a list fits can be seen from the
decomposed characters, and it does not depend on the order of marks.
-/

namespace Typeflow

open CodeSet

variable {code part : Nat}

section Attaching

def classed : Nat := ofRanges (combiningClassRanges.map fun (low, high, _) => (low, high))

def attaching : Nat :=
  classed |||
    ofList ((pairDecompositions.filter fun entry =>
      !(ofRanges compositionExclusions).testBit entry.1).map (·.2.2)) |||
    ofRanges [(0x1161, 0x1175), (0x11a8, 0x11c2)]

/-- The code points whose attaching characters are counted on another decomposition. -/
def listed : Nat := ofRanges (compatibilityAttachments.map fun (low, high, _) => (low, high))

/-- The listed characters that decompose. -/
def listedWholes : List Nat :=
  [0x385, 0x1fc1, 0x1fcd, 0x1fce, 0x1fcf, 0x1fdd, 0x1fde, 0x1fdf, 0x1fed, 0x1fee, 0x1ffd]

/-- What the tables of classes and of counts say, in one computation. Neither the first characters
nor leading consonants attach; what is listed neither attaches nor is a part of a syllable, and
what is not listed has no listed parts. -/
theorem attachment_tables :
    (∀ entry ∈ combiningClassRanges, 0x300 ≤ entry.1 ∧ entry.2.2 ≠ 0) ∧
      (∀ entry ∈ pairDecompositions, 0x300 ≤ entry.2.2) ∧
      ofRanges [(0, 0x9f), (0x1100, 0x1112)] &&& attaching = 0 ∧
      (attaching ||| ofRanges [(0x1100, 0x11ff)]) &&& listed = 0 ∧
      leadingInto listed &&& listed = leadingInto listed ∧
      listed &&& decomposable = ofList listedWholes := by
  decide +kernel

/-- What the tables say about second parts, in one computation. They do not decompose; and if one
does not attach, the first part neither attaches nor decomposes. -/
theorem second_tables :
    ofList (pairDecompositions.map (·.2.2)) &&& decomposable = 0 ∧
      ofList ((pairDecompositions.filter fun entry =>
        !attaching.testBit entry.2.2).map (·.2.1)) &&& (attaching ||| decomposable) = 0 := by
  decide +kernel

theorem testBit_classed : classed.testBit code = true ↔ combiningClass code ≠ 0 := by
  obtain ⟨hranges, -⟩ := attachment_tables
  rw [classed, testBit_ofRanges, Ranges.contains, List.any_map, List.any_eq_true, combiningClass]
  constructor
  · rintro ⟨entry, hentry, hbounds⟩
    simp only [Function.comp_apply, Bool.and_eq_true, decide_eq_true_eq] at hbounds
    have hlow := (hranges entry hentry).1
    rw [if_neg (by omega)]
    split
    · rename_i low high level hfind
      exact (hranges _ (List.mem_of_find?_eq_some hfind)).2
    · rename_i hfind
      have hnone := List.find?_eq_none.mp hfind entry hentry
      simp only [Bool.and_eq_true, decide_eq_true_eq] at hnone
      exact absurd hbounds hnone
  · intro h
    split at h
    · exact absurd rfl h
    · split at h
      · rename_i low high level hfind
        exact ⟨_, List.mem_of_find?_eq_some hfind, List.find?_some hfind⟩
      · exact absurd rfl h

theorem composesBackward_iff : composesBackward code = true ↔
    (∃ entry ∈ pairDecompositions, compositionExclusions.contains entry.1 = false ∧
      entry.2.2 = code) ∨ (0x1161 ≤ code ∧ code ≤ 0x1175 ∨ 0x11a8 ≤ code ∧ code ≤ 0x11c2) := by
  obtain ⟨-, hseconds, -⟩ := attachment_tables
  have hvowel : Hangul.isVowel code = true ↔ 0x1161 ≤ code ∧ code ≤ 0x1175 := by
    simp only [Hangul.isVowel, Bool.and_eq_true, decide_eq_true_eq]
    simp only [Hangul.vowelBase, Hangul.vowelCount]
    omega
  have htrail : Hangul.isTrail code = true ↔ 0x11a8 ≤ code ∧ code ≤ 0x11c2 := by
    simp only [Hangul.isTrail, Bool.and_eq_true, decide_eq_true_eq]
    simp only [Hangul.trailBase, Hangul.trailCount]
    omega
  have hpairs : (0x300 ≤ code && pairDecompositions.any fun (whole, _, b) =>
      b == code && !compositionExclusions.contains whole) = true ↔
      ∃ entry ∈ pairDecompositions, compositionExclusions.contains entry.1 = false ∧
        entry.2.2 = code := by
    simp only [Bool.and_eq_true, decide_eq_true_eq, List.any_eq_true, beq_iff_eq,
      Bool.not_eq_true']
    constructor
    · rintro ⟨-, entry, hentry, hsecond, hexcluded⟩
      exact ⟨entry, hentry, hexcluded, hsecond⟩
    · rintro ⟨entry, hentry, hexcluded, rfl⟩
      exact ⟨hseconds entry hentry, entry, hentry, rfl, hexcluded⟩
  rw [composesBackward, Bool.or_eq_true, Bool.or_eq_true, hvowel, htrail, hpairs, or_comm]

theorem attaches_iff : attaches code = true ↔ attaching.testBit code = true := by
  have hexcluded : ∀ whole, (!(ofRanges compositionExclusions).testBit whole) = true ↔
      compositionExclusions.contains whole = false := by
    intro whole
    rw [Bool.not_eq_true', ← Bool.not_eq_true, testBit_ofRanges, Bool.not_eq_true]
  rw [attaches, Bool.or_eq_true, bne_iff_ne, composesBackward_iff, attaching, Nat.testBit_or,
    Nat.testBit_or, Bool.or_eq_true, Bool.or_eq_true, testBit_classed, testBit_ofList,
    testBit_ofRanges, or_assoc]
  simp only [Ranges.contains, List.any_cons, List.any_nil, Bool.or_false, Bool.or_eq_true,
    Bool.and_eq_true, decide_eq_true_eq, List.mem_map, List.mem_filter, hexcluded, and_assoc]

theorem attaches_eq_false (h : attaching.testBit code = false) : attaches code = false := by
  rw [← Bool.not_eq_true, attaches_iff, h]
  exact Bool.false_ne_true

theorem attaches_eq_false_of_range (h : code ≤ 0x9f ∨ 0x1100 ≤ code ∧ code ≤ 0x1112) :
    attaches code = false := by
  obtain ⟨-, -, hranges, -⟩ := attachment_tables
  refine attaches_eq_false (not_testBit_of_disjoint hranges (testBit_ofRanges.mpr ?_))
  simpa [Ranges.contains] using h

theorem not_listed (h : attaches code = true ∨ 0x1100 ≤ code ∧ code ≤ 0x11ff) :
    listed.testBit code = false := by
  obtain ⟨-, -, -, hlisted, -⟩ := attachment_tables
  refine not_testBit_of_disjoint hlisted ?_
  rwa [Nat.testBit_or, Bool.or_eq_true, ← attaches_iff, testBit_range]

end Attaching

section Counts

/-- The counts are those of one character that attaches or does not. -/
def Simple (code : Nat) : Prop := attachments code = if attaches code then (1, 1) else (0, 0)

theorem Atomic.not_syllable (h : Atomic code) : Hangul.isSyllable code = false := by
  rw [← Bool.not_eq_true]
  intro hsyllable
  rw [Atomic, decompose, if_pos hsyllable] at h
  unfold Hangul.decompose at h
  dsimp only at h
  split at h <;> exact List.cons_ne_nil _ _ (List.cons.inj h).2

theorem find?_of_not_listed (h : listed.testBit code = false) :
    (compatibilityAttachments.find? fun (low, high, _) => low ≤ code && code ≤ high) = none := by
  rw [← Bool.not_eq_true, listed, testBit_ofRanges, Ranges.contains, List.any_map,
    List.any_eq_true] at h
  exact List.find?_eq_none.mpr fun entry hentry hbounds => h ⟨entry, hentry, hbounds⟩

/-- The counts of what is not listed are taken on its parts. -/
theorem attachments_of_not_listed (hlow : 0xa0 ≤ code)
    (hsyllable : Hangul.isSyllable code = false) (hlisted : listed.testBit code = false) :
    attachments code = (((decompose code).takeWhile attaches).length,
      ((decompose code).reverse.takeWhile attaches).length) := by
  rw [attachments, if_neg (Nat.not_lt.mpr hlow), hsyllable, if_neg Bool.false_ne_true,
    find?_of_not_listed hlisted]

theorem Atomic.simple (h : Atomic code) (hlisted : listed.testBit code = false) :
    Simple code := by
  rw [Simple]
  by_cases hlow : code < 0xa0
  · rw [attaches_eq_false_of_range (Or.inl (by omega)), if_neg Bool.false_ne_true, attachments,
      if_pos hlow]
  · have hparts : decompose code = [code] := h
    rw [attachments_of_not_listed (Nat.not_lt.mp hlow) h.not_syllable hlisted, hparts]
    cases hattaches : attaches code <;> simp [hattaches]

theorem decomposeOnce_cases {parts : List Nat} (h : decomposeOnce code = some parts) :
    (∃ first second, (code, first, second) ∈ pairDecompositions ∧ parts = [first, second]) ∨
      ∃ part, parts = [part] := by
  have hmem := mem_steps h
  simp only [steps, List.mem_append, List.mem_map, Prod.mk.injEq] at hmem
  rcases hmem with ⟨⟨whole, first, second⟩, hpair, rfl, rfl⟩ | ⟨⟨_, part⟩, -, -, rfl⟩
  · exact Or.inl ⟨first, second, hpair, rfl⟩
  · exact Or.inr ⟨part, rfl⟩

theorem length_decomposeWithin_le (depth code : Nat) :
    (decomposeWithin depth code).length ≤ 2 ^ depth := by
  induction depth generalizing code with
  | zero => rfl
  | succ depth ih =>
    have hone := Nat.one_le_two_pow (n := depth)
    rw [decomposeWithin, Nat.pow_succ]
    split
    · rename_i parts hparts
      rcases decomposeOnce_cases hparts with ⟨first, second, -, rfl⟩ | ⟨part, rfl⟩
      · have hfirst := ih first
        have hsecond := ih second
        simp only [List.flatMap_cons, List.flatMap_nil, List.append_nil, List.length_append]
        omega
      · have hpart := ih part
        simp only [List.flatMap_singleton]
        omega
    · simp only [List.length_singleton]
      omega

theorem length_decompose_le (code : Nat) : (decompose code).length ≤ 16 := by
  unfold decompose
  split
  · unfold Hangul.decompose
    dsimp only
    split <;> simp
  · exact length_decomposeWithin_le 4 code

theorem attachments_le (code : Nat) : (attachments code).1 ≤ 16 ∧ (attachments code).2 ≤ 16 := by
  have hlisted : ∀ entry ∈ compatibilityAttachments, entry.2.2.1 ≤ 16 ∧ entry.2.2.2 ≤ 16 := by
    decide
  have hlength := length_decompose_le code
  unfold attachments
  split
  · simp
  · split
    · split <;> simp
    · split
      · rename_i hfind
        exact hlisted _ (List.mem_of_find?_eq_some hfind)
      · have hfront := (List.takeWhile_prefix attaches (l := decompose code)).length_le
        have hback := (List.takeWhile_prefix attaches (l := (decompose code).reverse)).length_le
        rw [List.length_reverse] at hback
        exact ⟨hfront.trans hlength, hback.trans hlength⟩

/-- What is not listed has no listed parts. -/
theorem not_listed_of_mem_decomposeWithin {depth : Nat} (hcode : listed.testBit code = false)
    (h : part ∈ decomposeWithin depth code) : listed.testBit part = false := by
  obtain ⟨-, -, -, -, hsteps, -⟩ := attachment_tables
  induction depth generalizing code with
  | zero =>
    rw [List.mem_singleton.mp h]
    exact hcode
  | succ depth ih =>
    rw [decomposeWithin] at h
    split at h
    · rename_i parts hparts
      obtain ⟨middle, hmiddle, hpart⟩ := List.mem_flatMap.mp h
      refine ih ?_ hpart
      rw [← Bool.not_eq_true] at hcode ⊢
      intro hlisted
      exact hcode (testBit_of_subset hsteps (testBit_leadingInto hparts hmiddle hlisted))
    · rw [List.mem_singleton.mp h]
      exact hcode

theorem attaches_of_head {depth head : Nat} {tail : List Nat}
    (h : decomposeWithin depth code = head :: tail) (hhead : attaches head = true) :
    ∀ part ∈ tail, attaches part = true := by
  obtain ⟨hseconds, hfirsts⟩ := second_tables
  induction depth generalizing code tail with
  | zero =>
    obtain ⟨-, rfl⟩ := List.cons.inj h
    simp
  | succ depth ih =>
    cases honce : decomposeOnce code with
    | none =>
      rw [decomposeWithin_of_none honce] at h
      obtain ⟨-, rfl⟩ := List.cons.inj h
      simp
    | some parts =>
      rw [decomposeWithin_of_some honce] at h
      rcases decomposeOnce_cases honce with ⟨first, second, hpair, rfl⟩ | ⟨part, rfl⟩
      · have hsecond : decomposeOnce second = none := by
          refine decomposeOnce_eq_none (not_testBit_of_disjoint hseconds ?_)
          exact testBit_ofList.mpr (List.mem_map.mpr ⟨_, hpair, rfl⟩)
        obtain ⟨head', tail', hfirst⟩ :=
          List.exists_cons_of_ne_nil (decomposeWithin_ne_nil depth first)
        simp only [List.flatMap_cons, List.flatMap_nil, List.append_nil, hfirst,
          decomposeWithin_of_none hsecond, List.cons_append] at h
        obtain ⟨rfl, rfl⟩ := List.cons.inj h
        refine List.forall_mem_append.mpr ⟨ih hfirst, List.forall_mem_singleton.mpr ?_⟩
        -- A second part that does not attach follows a first part that neither attaches nor
        -- decomposes, and that is the head.
        by_contra hnot
        rw [attaches_iff, Bool.not_eq_true, ← Bool.not_eq_true'] at hnot
        have hplain := not_testBit_of_disjoint hfirsts (testBit_ofList.mpr (List.mem_map.mpr
          ⟨_, List.mem_filter.mpr ⟨hpair, hnot⟩, rfl⟩))
        rw [Nat.testBit_or, Bool.or_eq_false_iff] at hplain
        rw [decomposeWithin_of_none (decomposeOnce_eq_none hplain.2)] at hfirst
        obtain ⟨rfl, -⟩ := List.cons.inj hfirst
        rw [attaches_eq_false hplain.1] at hhead
        cases hhead
      · rw [List.flatMap_singleton] at h
        exact ih h

/-- The run behind a character. -/
def runAfter (run code : Nat) : Nat :=
  if (attachments code).1 = 0 then (attachments code).2 else run + (attachments code).1

theorem Simple.attachments_eq (h : Simple code) (hattaches : attaches code = true) :
    attachments code = (1, 1) := by
  rw [Simple, hattaches] at h
  exact h

theorem Simple.attachments_eq_zero (h : Simple code) (hattaches : attaches code = false) :
    attachments code = (0, 0) := by
  rw [Simple, hattaches] at h
  exact h

theorem Simple.runAfter_eq (h : Simple code) (run : Nat) :
    runAfter run code = if attaches code then run + 1 else 0 := by
  cases hattaches : attaches code with
  | true => simp [runAfter, h.attachments_eq hattaches]
  | false => simp [runAfter, h.attachments_eq_zero hattaches]

theorem Simple.attachments_cases (h : Simple code) :
    attachments code = (0, 0) ∨ attachments code = (1, 1) := by
  cases hattaches : attaches code with
  | true => exact Or.inr (h.attachments_eq hattaches)
  | false => exact Or.inl (h.attachments_eq_zero hattaches)

/-- The run behind characters is as long as what attaches at their end. -/
theorem foldl_runAfter {parts : List Nat} (h : ∀ part ∈ parts, Simple part) :
    parts.foldl runAfter 0 = (parts.reverse.takeWhile attaches).length := by
  induction parts using List.reverseRecOn with
  | nil => rfl
  | append_singleton parts part ih =>
    obtain ⟨hparts, hpart⟩ := List.forall_mem_append.mp h
    rw [List.foldl_append, ih hparts, List.foldl_cons, List.foldl_nil,
      (hpart part List.mem_cons_self).runAfter_eq, List.reverse_append, List.reverse_singleton,
      List.singleton_append, List.takeWhile_cons]
    split <;> rfl

end Counts

namespace Normal

open Glyph

variable {run : Nat} {parts : List Nat} {glyphs glyphs' rest : List Glyph}

/-- No run is too long. `run` counts what attaches before the list. -/
def Fits : Nat → List Glyph → Prop
  | _, [] => True
  | _, stray _ :: rest => Fits 0 rest
  | run, scalar code :: rest =>
    run + (attachments code).1 ≤ longestRun ∧ Fits (runAfter run code) rest

theorem breakRuns_of_fits (h : Fits run glyphs) : breakRuns run glyphs = glyphs := by
  induction glyphs generalizing run with
  | nil => rfl
  | cons glyph rest ih =>
    cases glyph with
    | stray byte => rw [breakRuns, ih h]
    | scalar code =>
      obtain ⟨hrun, hrest⟩ := h
      have hafter := ih hrest
      simp only [runAfter, ← beq_iff_eq (a := (attachments code).1)] at hafter
      rw [breakRuns]
      simp only [if_neg (Nat.not_lt.mpr hrun), hafter]

/-- Counts that are read off the tables, in one computation. A joiner has none, and a listed
character has those of its parts. -/
theorem count_tables :
    attachments joiner = (0, 0) ∧
      ∀ code ∈ listedWholes, ∀ head ∈ (decompose code).head?,
        (attachments head).1 = 0 ∧
        attachments code = (0, (decompose code).tail.foldl runAfter (attachments head).2) ∧
        (∀ part ∈ (decompose code).tail, attachments part = (0, 0) ∨ attachments part = (1, 1)) ∧
        (attachments head).2 + (decompose code).tail.length ≤ longestRun := by
  decide +kernel

theorem fits_breakRuns (hrun : run ≤ longestRun) : Fits run (breakRuns run glyphs) := by
  obtain ⟨hjoiner, -⟩ := count_tables
  induction glyphs generalizing run with
  | nil => trivial
  | cons glyph rest ih =>
    cases glyph with
    | stray byte => exact ih (Nat.zero_le _)
    | scalar code =>
      obtain ⟨hleading, htrailing⟩ := attachments_le code
      have hlongest : longestRun = 30 := rfl
      rw [breakRuns]
      simp only
      split
      · rename_i hlong
        -- A joiner stands before the character and ends the run, which begins anew.
        have hzero : (attachments code).1 ≠ 0 := by omega
        refine ⟨by rw [hjoiner]; exact hrun, ?_⟩
        rw [runAfter, hjoiner]
        refine ⟨by simp only [if_true]; omega, ?_⟩
        simp only [runAfter, hzero, if_false, if_true, Nat.zero_add]
        exact ih (by omega)
      · rename_i hshort
        refine ⟨Nat.not_lt.mp hshort, ?_⟩
        simp only [runAfter, ← beq_iff_eq (a := (attachments code).1)]
        refine ih ?_
        split <;> omega

/-- A few characters always fit if each attaches as one or does not attach. -/
theorem fits_few (h : ∀ part ∈ parts, attachments part = (0, 0) ∨ attachments part = (1, 1))
    (hrun : run + parts.length ≤ longestRun) :
    Fits run (parts.map scalar ++ rest) ↔ Fits (parts.foldl runAfter run) rest := by
  induction parts generalizing run with
  | nil => rfl
  | cons part parts ih =>
    obtain ⟨hpart, hparts⟩ := List.forall_mem_cons.mp h
    rw [List.length_cons] at hrun
    have hroom : run + (attachments part).1 ≤ longestRun ∧
        runAfter run part + parts.length ≤ longestRun := by
      rcases hpart with hpart | hpart <;> simp only [runAfter, hpart] <;> grind
    rw [List.foldl_cons, ← ih hparts hroom.2]
    exact and_iff_right hroom.1

/-- Attaching characters fit if there is room for all of them. -/
theorem fits_attached (h : ∀ part ∈ parts, attachments part = (1, 1)) (hrun : run ≤ longestRun) :
    Fits run (parts.map scalar ++ rest) ↔
      run + parts.length ≤ longestRun ∧ Fits (run + parts.length) rest := by
  induction parts generalizing run with
  | nil => exact (and_iff_right hrun).symm
  | cons part parts ih =>
    obtain ⟨hpart, hparts⟩ := List.forall_mem_cons.mp h
    have hunfold : Fits run ((part :: parts).map scalar ++ rest) ↔
        run + 1 ≤ longestRun ∧ Fits (run + 1) (parts.map scalar ++ rest) := by
      simp only [List.map_cons, List.cons_append, Fits, runAfter, hpart, Nat.one_ne_zero,
        if_false]
    rw [hunfold, List.length_cons, ← Nat.add_assoc, Nat.add_right_comm]
    constructor
    · rintro ⟨hroom, hfits⟩
      exact (ih hparts hroom).mp hfits
    · rintro ⟨hroom, hfits⟩
      have hnext : run + 1 ≤ longestRun := by omega
      exact ⟨hnext, (ih hparts hnext).mpr ⟨hroom, hfits⟩⟩

/-- How the counts of a character follow from those of its parts: the first part begins a new run,
or all parts attach. -/
inductive Regular (code : Nat) : Prop
  | atomic (h : Atomic code)
  | starts {head : Nat} {tail : List Nat} (hparts : decompose code = head :: tail)
      (hhead : (attachments head).1 = 0)
      (hcode : attachments code = (0, tail.foldl runAfter (attachments head).2))
      (htail : ∀ part ∈ tail, attachments part = (0, 0) ∨ attachments part = (1, 1))
      (hlength : (attachments head).2 + tail.length ≤ longestRun)
  | attached (hparts : ∀ part ∈ decompose code, attachments part = (1, 1))
      (hcode : (attachments code).1 = (decompose code).length)

/-- A list fits exactly if it fits with the first character decomposed. -/
theorem Regular.fits_iff (h : Regular code) :
    Fits run (decomposeGlyph (scalar code) ++ rest) ↔ Fits run (scalar code :: rest) := by
  cases h with
  | atomic h =>
    have hparts : decompose code = [code] := h
    rw [decomposeGlyph, hparts, List.map_singleton, List.singleton_append]
  | @starts head tail hparts hhead hcode htail hlength =>
    rw [decomposeGlyph, hparts, List.map_cons, List.cons_append, Fits, Fits, runAfter, runAfter,
      if_pos hhead, hhead, hcode]
    simp only [if_true, fits_few htail hlength]
  | attached hparts hcode =>
    obtain ⟨head, tail, hcons⟩ := List.exists_cons_of_ne_nil (decompose_ne_nil code)
    rw [hcons] at hparts hcode
    obtain ⟨hhead, htail⟩ := List.forall_mem_cons.mp hparts
    rw [List.length_cons] at hcode
    have hne : (attachments code).1 ≠ 0 := by omega
    rw [decomposeGlyph, hcons, List.map_cons, List.cons_append, Fits, Fits, runAfter, runAfter,
      if_neg hne, hhead, hcode]
    simp only [Nat.one_ne_zero, if_false]
    rw [Nat.add_comm tail.length 1, ← Nat.add_assoc]
    constructor
    · rintro ⟨hroom, hfits⟩
      exact (fits_attached htail hroom).mp hfits
    · rintro ⟨hroom, hfits⟩
      have hnext : run + 1 ≤ longestRun := by omega
      exact ⟨hnext, (fits_attached htail hnext).mpr ⟨hroom, hfits⟩⟩

theorem simple_of_jamo (hlow : 0x1100 ≤ code) (hhigh : code ≤ 0x11ff) : Simple code :=
  (atomic_of_jamo hlow hhigh).simple (not_listed (Or.inr ⟨hlow, hhigh⟩))

theorem regular_of_syllable (h : Hangul.isSyllable code = true) : Regular code := by
  have hattaches : ∀ code, 0x1161 ≤ code ∧ code ≤ 0x1175 ∨ 0x11a8 ≤ code ∧ code ≤ 0x11c2 →
      attachments code = (1, 1) := by
    intro code hrange
    have hcode : attaches code = true := by
      rw [attaches, composesBackward_iff.mpr (Or.inr hrange), Bool.or_true]
    exact (simple_of_jamo (by omega) (by omega)).attachments_eq hcode
  have hrange := isSyllable_iff.mp h
  obtain ⟨index, rfl⟩ : ∃ index, code = 0xac00 + index := ⟨code - 0xac00, by omega⟩
  have hcounts : attachments (0xac00 + index) = (0, if index % 28 = 0 then 1 else 2) := by
    have hindex : 0xac00 + index - Hangul.syllableBase = index := Nat.add_sub_cancel_left ..
    rw [attachments, if_neg (by omega), if_pos h, Hangul.isOpenSyllable, h, Bool.true_and, hindex]
    simp only [beq_iff_eq]
    rfl
  have hlead : attachments (0x1100 + index / 588) = (0, 0) := by
    refine (simple_of_jamo (by omega) (by omega)).attachments_eq_zero ?_
    exact attaches_eq_false_of_range (Or.inr (by omega))
  have hvowel := hattaches (0x1161 + index % 588 / 28) (Or.inl (by omega))
  by_cases hopen : index % 28 = 0
  · have hparts : decompose (0xac00 + index) = _ :=
      (if_pos h).trans (hangul_decompose_open index hopen)
    refine .starts hparts (by rw [hlead]) ?_ ?_ ?_
    · rw [hcounts, if_pos hopen]
      simp [runAfter, hlead, hvowel]
    · exact List.forall_mem_singleton.mpr (Or.inr hvowel)
    · rw [hlead]
      exact (by decide : 1 ≤ 30)
  · have hparts : decompose (0xac00 + index) = _ :=
      (if_pos h).trans (hangul_decompose_closed index hopen)
    have htrail := hattaches (0x11a7 + index % 28) (Or.inr (by omega))
    refine .starts hparts (by rw [hlead]) ?_ ?_ ?_
    · rw [hcounts, if_neg hopen]
      simp [runAfter, hlead, hvowel, htrail]
    · exact List.forall_mem_cons.mpr
        ⟨Or.inr hvowel, List.forall_mem_singleton.mpr (Or.inr htrail)⟩
    · rw [hlead]
      exact (by decide : 2 ≤ 30)

theorem regular_of_listed (hlisted : listed.testBit code = true)
    (h : decomposable.testBit code = true) : Regular code := by
  obtain ⟨-, -, -, -, -, hwholes⟩ := attachment_tables
  obtain ⟨-, hcounts⟩ := count_tables
  have hmem : code ∈ listedWholes := by
    rw [← testBit_ofList, ← hwholes, Nat.testBit_and, hlisted, h, Bool.true_and]
  obtain ⟨head, tail, hparts⟩ := List.exists_cons_of_ne_nil (decompose_ne_nil code)
  have hcode := hcounts code hmem
  rw [hparts] at hcode
  obtain ⟨hhead, hcode, htail, hlength⟩ := hcode head rfl
  exact .starts hparts hhead hcode htail hlength

theorem regular_of_not_listed (hsyllable : Hangul.isSyllable code = false)
    (hlisted : listed.testBit code = false) {parts : List Nat}
    (honce : decomposeOnce code = some parts) : Regular code := by
  have hlow : 0xa0 ≤ code := by
    unfold decomposeOnce at honce
    split at honce
    · cases honce
    · omega
  have hdecompose : decompose code = decomposeWithin 4 code := by
    rw [decompose, hsyllable, if_neg Bool.false_ne_true]
  have hcounts := attachments_of_not_listed hlow hsyllable hlisted
  have hsimple : ∀ part ∈ decompose code, Simple part := by
    intro part hpart
    refine (atomic_of_mem_decompose hpart).simple ?_
    rw [hdecompose] at hpart
    exact not_listed_of_mem_decomposeWithin hlisted hpart
  obtain ⟨head, tail, hparts⟩ := List.exists_cons_of_ne_nil (decompose_ne_nil code)
  have hlength := length_decompose_le code
  rw [hparts] at hcounts hlength
  have hhead : Simple head := hsimple head (by simp [hparts])
  cases hattaches : attaches head with
  | true =>
    have hall : ∀ part ∈ head :: tail, attaches part = true :=
      List.forall_mem_cons.mpr ⟨hattaches, attaches_of_head (hdecompose ▸ hparts) hattaches⟩
    refine .attached (fun part hpart => ?_) ?_
    · exact (hsimple part hpart).attachments_eq (hall part (hparts ▸ hpart))
    · rw [hcounts, hparts]
      simp only [List.takeWhile_eq_self_iff.mpr hall]
  | false =>
    have hzero := hhead.attachments_eq_zero hattaches
    refine .starts hparts (by rw [hzero]) ?_ (fun part hpart => ?_) ?_
    · have hrun := foldl_runAfter (hparts ▸ hsimple)
      rw [List.foldl_cons, hhead.runAfter_eq, hattaches, if_neg Bool.false_ne_true] at hrun
      rw [hcounts, hzero, ← hrun, List.takeWhile_cons, hattaches, if_neg Bool.false_ne_true]
      rfl
    · exact (hsimple part (by simp [hparts, hpart])).attachments_cases
    · rw [hzero, Nat.zero_add]
      rw [List.length_cons] at hlength
      exact (by omega : tail.length ≤ 30)

theorem regular (code : Nat) : Regular code := by
  by_cases hsyllable : Hangul.isSyllable code = true
  · exact regular_of_syllable hsyllable
  · rw [Bool.not_eq_true] at hsyllable
    cases honce : decomposeOnce code with
    | none => exact .atomic (atomic_of_none hsyllable honce)
    | some parts =>
      cases hlisted : listed.testBit code with
      | true => exact regular_of_listed hlisted (testBit_decomposable honce)
      | false => exact regular_of_not_listed hsyllable hlisted honce

/-- A list fits exactly if the decomposed list does. -/
theorem fits_flatMap : Fits run (glyphs.flatMap decomposeGlyph) ↔ Fits run glyphs := by
  induction glyphs generalizing run with
  | nil => rfl
  | cons glyph rest ih =>
    rw [List.flatMap_cons]
    cases glyph with
    | stray byte => exact ih
    | scalar code =>
      rw [(regular code).fits_iff, Fits, Fits, ih]

/-- Marks that do not decompose attach as one character. -/
theorem attachments_of_mark {mark : Glyph} (hclass : glyphClass mark ≠ 0)
    (hatomic : decomposeGlyph mark = [mark]) :
    ∃ code, mark = scalar code ∧ attachments code = (1, 1) := by
  cases mark with
  | stray byte => exact absurd rfl hclass
  | scalar code =>
    have hcode : Atomic code := by
      have hmap : (decompose code).map scalar = [code].map scalar := hatomic
      exact (List.map_inj_right fun _ _ => scalar.inj).mp hmap
    have hattaches : attaches code = true := by
      have hne : (combiningClass code != 0) = true := bne_iff_ne.mpr hclass
      rw [attaches, hne, Bool.true_or]
    have hsimple := hcode.simple (not_listed (Or.inl hattaches))
    exact ⟨code, rfl, hsimple.attachments_eq hattaches⟩

/-- Whether a list fits does not depend on the order of marks. -/
theorem Reorders.fits_iff (h : Reorders glyphs glyphs') (hatomic : AllAtomic glyphs) :
    Fits run glyphs ↔ Fits run glyphs' := by
  induction h generalizing run with
  | refl glyphs => rfl
  | cons glyph _ ih =>
    obtain ⟨-, hrest⟩ := List.forall_mem_cons.mp hatomic
    cases glyph with
    | stray byte => exact ih hrest
    | scalar code => rw [Fits, Fits, ih hrest]
  | swap rest hmark hother _ =>
    obtain ⟨hfirst, hrest⟩ := List.forall_mem_cons.mp hatomic
    obtain ⟨code, rfl, hcode⟩ := attachments_of_mark hmark hfirst
    obtain ⟨code', rfl, hcode'⟩ := attachments_of_mark hother (hrest _ List.mem_cons_self)
    simp only [Fits, runAfter, hcode, hcode']
  | trans hfirst _ ih ih' =>
    have hmiddle : AllAtomic _ :=
      fun glyph hglyph => hatomic glyph (hfirst.perm.mem_iff.mpr hglyph)
    exact (ih hatomic).trans (ih' hmiddle)

end Normal

end Typeflow
