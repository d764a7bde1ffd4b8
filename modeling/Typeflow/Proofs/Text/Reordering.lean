import Typeflow.Proofs.Text.Decomposition

/-!
Lists of characters that differ only in the order of marks. Two marks of different classes may
change places, and sorting leads such lists to the same result. Sorting itself only changes places
in this way. So does composing, if the result is decomposed again: a mark that composes passes
over marks of lower classes.
-/

namespace Typeflow.Normal

open Glyph

variable {glyph mark other : Glyph} {glyphs glyphs' rest marks : List Glyph} {level : Nat}

/-- Marks of different classes change places. -/
inductive Reorders : List Glyph → List Glyph → Prop
  | refl (glyphs : List Glyph) : Reorders glyphs glyphs
  | cons (glyph : Glyph) {glyphs glyphs' : List Glyph} :
      Reorders glyphs glyphs' → Reorders (glyph :: glyphs) (glyph :: glyphs')
  | swap {mark other : Glyph} (rest : List Glyph) :
      glyphClass mark ≠ 0 → glyphClass other ≠ 0 → glyphClass mark ≠ glyphClass other →
      Reorders (mark :: other :: rest) (other :: mark :: rest)
  | trans {glyphs glyphs' glyphs'' : List Glyph} :
      Reorders glyphs glyphs' → Reorders glyphs' glyphs'' → Reorders glyphs glyphs''

namespace Reorders

theorem perm (h : Reorders glyphs glyphs') : glyphs.Perm glyphs' := by
  induction h with
  | refl glyphs => exact .refl glyphs
  | cons glyph _ ih => exact ih.cons glyph
  | swap rest _ _ _ => exact .swap ..
  | trans _ _ ih ih' => exact ih.trans ih'

theorem append_left (front : List Glyph) (h : Reorders glyphs glyphs') :
    Reorders (front ++ glyphs) (front ++ glyphs') := by
  induction front with
  | nil => exact h
  | cons glyph front ih => exact .cons glyph ih

theorem pass (hmark : glyphClass mark ≠ 0)
    (hmarks : ∀ other ∈ marks, glyphClass other ≠ 0 ∧ glyphClass other ≠ glyphClass mark)
    (rest : List Glyph) : Reorders (marks ++ mark :: rest) (mark :: (marks ++ rest)) := by
  induction marks with
  | nil => exact .refl _
  | cons other marks ih =>
    obtain ⟨⟨hother, hne⟩, hmarks⟩ := List.forall_mem_cons.mp hmarks
    exact .trans (.cons other (ih hmarks)) (.swap _ hother hmark hne)

end Reorders

section Sorting

theorem insertMark_cons (mark first : Glyph) (marks : List Glyph) :
    insertMark mark (first :: marks) =
      if glyphClass first ≤ glyphClass mark then first :: insertMark mark marks
      else mark :: first :: marks := by
  by_cases h : glyphClass first ≤ glyphClass mark <;> simp [insertMark, h]

/-- It does not matter which of two marks of different classes is inserted first. -/
theorem insertMark_comm (h : glyphClass mark < glyphClass other) (marks : List Glyph) :
    insertMark mark (insertMark other marks) = insertMark other (insertMark mark marks) := by
  induction marks with
  | nil =>
    have hge : ¬ glyphClass other ≤ glyphClass mark := by omega
    have hle : glyphClass mark ≤ glyphClass other := by omega
    simp [insertMark, hge, hle]
  | cons first marks ih =>
    by_cases hfirst : glyphClass first ≤ glyphClass mark
    · have hother : glyphClass first ≤ glyphClass other := by omega
      simp only [insertMark_cons, hfirst, hother, if_true, ih]
    · have hle : glyphClass mark ≤ glyphClass other := by omega
      have hge : ¬ glyphClass other ≤ glyphClass mark := by omega
      by_cases hother : glyphClass first ≤ glyphClass other <;>
        simp [insertMark_cons, hfirst, hother, hle, hge]

theorem Reorders.sortMarks_eq (h : Reorders glyphs glyphs') (marks : List Glyph) :
    sortMarks marks glyphs = sortMarks marks glyphs' := by
  induction h generalizing marks with
  | refl glyphs => rfl
  | cons glyph _ ih => simp only [sortMarks, ih]
  | swap rest hmark hother hne =>
    simp only [sortMarks, beq_iff_eq, hmark, hother, if_false]
    rcases Nat.lt_or_gt_of_ne hne with hlt | hlt
    · rw [insertMark_comm hlt]
    · rw [insertMark_comm hlt]
  | trans _ _ ih ih' => exact (ih marks).trans (ih' marks)

/-- Marks in the order of their classes. -/
structure Sorted (marks : List Glyph) : Prop where
  ne_zero : ∀ mark ∈ marks, glyphClass mark ≠ 0
  pairwise : marks.Pairwise fun mark mark' => glyphClass mark ≤ glyphClass mark'

theorem sorted_nil : Sorted [] := ⟨by simp, .nil⟩

theorem sorted_cons : Sorted (mark :: marks) ↔ glyphClass mark ≠ 0 ∧
    (∀ other ∈ marks, glyphClass mark ≤ glyphClass other) ∧ Sorted marks := by
  constructor
  · rintro ⟨hne, hpairwise⟩
    obtain ⟨hmark, hmarks⟩ := List.forall_mem_cons.mp hne
    obtain ⟨hfirst, hrest⟩ := List.pairwise_cons.mp hpairwise
    exact ⟨hmark, hfirst, hmarks, hrest⟩
  · rintro ⟨hmark, hfirst, hmarks, hrest⟩
    exact ⟨List.forall_mem_cons.mpr ⟨hmark, hmarks⟩, List.pairwise_cons.mpr ⟨hfirst, hrest⟩⟩

theorem sorted_insertMark (hmark : glyphClass mark ≠ 0) (h : Sorted marks) :
    Sorted (insertMark mark marks) := by
  induction marks with
  | nil => exact sorted_cons.mpr ⟨hmark, by simp, sorted_nil⟩
  | cons first marks ih =>
    obtain ⟨hfirst, hleast, hmarks⟩ := sorted_cons.mp h
    rw [insertMark_cons]
    split
    · rename_i hle
      refine sorted_cons.mpr ⟨hfirst, fun other hother => ?_, ih hmarks⟩
      rcases List.mem_cons.mp ((insertMark_perm mark marks).mem_iff.mp hother) with rfl | hother
      · exact hle
      · exact hleast other hother
    · refine sorted_cons.mpr ⟨hmark, fun other hother => ?_, h⟩
      rcases List.mem_cons.mp hother with rfl | hother
      · omega
      · have hle := hleast other hother
        omega

/-- Inserting a mark moves it over the marks of higher classes. -/
theorem insertMark_reorders (hmark : glyphClass mark ≠ 0) (h : Sorted marks) (rest : List Glyph) :
    Reorders (marks ++ mark :: rest) (insertMark mark marks ++ rest) := by
  induction marks with
  | nil => exact .refl _
  | cons first marks ih =>
    obtain ⟨hfirst, hleast, hmarks⟩ := sorted_cons.mp h
    rw [insertMark_cons]
    split
    · exact .cons first (ih hmarks)
    · rename_i hlt
      refine .pass hmark (fun other hother => ?_) rest
      refine ⟨h.ne_zero other hother, ?_⟩
      rcases List.mem_cons.mp hother with rfl | hother
      · omega
      · have hle := hleast other hother
        omega

/-- Sorting only moves marks over marks of other classes. -/
theorem sortMarks_reorders (h : Sorted marks) (glyphs : List Glyph) :
    Reorders (marks ++ glyphs) (sortMarks marks glyphs) := by
  induction glyphs generalizing marks with
  | nil =>
    rw [List.append_nil]
    exact .refl marks
  | cons glyph rest ih =>
    rw [sortMarks]
    split
    · exact .append_left marks (.cons glyph (ih sorted_nil))
    · rename_i hclass
      rw [beq_iff_eq] at hclass
      exact .trans (insertMark_reorders hclass h rest) (ih (sorted_insertMark hclass h))

/-- Every mark has a class that is not below the one before. `level` is the class before the
list. -/
def Ordered : Nat → List Glyph → Prop
  | _, [] => True
  | level, glyph :: rest =>
    (glyphClass glyph = 0 ∨ level ≤ glyphClass glyph) ∧ Ordered (glyphClass glyph) rest

theorem ordered_append (h : Sorted marks) (hlevel : ∀ mark ∈ marks, level ≤ glyphClass mark)
    (hrest : ∀ level, Ordered level rest) : Ordered level (marks ++ rest) := by
  induction marks generalizing level with
  | nil => exact hrest level
  | cons mark marks ih =>
    obtain ⟨-, hleast, hmarks⟩ := sorted_cons.mp h
    exact ⟨Or.inr (hlevel mark List.mem_cons_self), ih hmarks hleast⟩

theorem ordered_sortMarks (h : Sorted marks) (glyphs : List Glyph) :
    Ordered 0 (sortMarks marks glyphs) := by
  induction glyphs generalizing marks with
  | nil =>
    rw [sortMarks, ← List.append_nil marks]
    exact ordered_append h (fun _ _ => Nat.zero_le _) fun _ => trivial
  | cons glyph rest ih =>
    rw [sortMarks]
    split
    · rename_i hclass
      rw [beq_iff_eq] at hclass
      refine ordered_append h (fun _ _ => Nat.zero_le _) fun level => ⟨Or.inl hclass, ?_⟩
      rw [hclass]
      exact ih sorted_nil
    · rename_i hclass
      rw [beq_iff_eq] at hclass
      exact ih (sorted_insertMark hclass h)

end Sorting

section Composing

def AllAtomic (glyphs : List Glyph) : Prop := ∀ glyph ∈ glyphs, decomposeGlyph glyph = [glyph]

theorem flatMap_atomic (h : AllAtomic glyphs) : glyphs.flatMap decomposeGlyph = glyphs := by
  induction glyphs with
  | nil => rfl
  | cons glyph rest ih =>
    obtain ⟨hglyph, hrest⟩ := List.forall_mem_cons.mp h
    rw [List.flatMap_cons, hglyph, ih hrest, List.singleton_append]

theorem allAtomic_flatMap (glyphs : List Glyph) : AllAtomic (glyphs.flatMap decomposeGlyph) := by
  intro glyph hglyph
  obtain ⟨whole, -, hmem⟩ := List.mem_flatMap.mp hglyph
  cases whole with
  | stray byte =>
    rw [List.mem_singleton.mp hmem]
    rfl
  | scalar code =>
    obtain ⟨part, hpart, rfl⟩ := List.mem_map.mp hmem
    have hatomic : decompose part = [part] := atomic_of_mem_decompose hpart
    rw [decomposeGlyph, hatomic, List.map_singleton]

/-- The marks after the starter are in order and do not decompose. -/
structure Open.Kept (pending : Open) (level : Nat) : Prop where
  atomic : AllAtomic pending.kept
  ne_zero : ∀ mark ∈ pending.kept, glyphClass mark ≠ 0
  le_level : ∀ mark ∈ pending.kept, glyphClass mark ≤ level
  pairwise : pending.kept.Pairwise fun later earlier => glyphClass earlier ≤ glyphClass later

theorem Open.kept_nil (starter : Option Nat) (level : Nat) : Open.Kept ⟨starter, []⟩ level :=
  ⟨by simp [AllAtomic], by simp, by simp, .nil⟩

/-- What an open starter and its marks decompose to. -/
def Open.parts (pending : Open) : List Glyph := pending.glyphs.flatMap decomposeGlyph

theorem Open.parts_eq {starter : Option Nat} {kept : List Glyph} (h : AllAtomic kept) :
    Open.parts ⟨starter, kept⟩ =
      (starter.map scalar).toList.flatMap decomposeGlyph ++ kept.reverse := by
  have hreverse : AllAtomic kept.reverse :=
    fun glyph hglyph => h glyph (List.mem_reverse.mp hglyph)
  rw [Open.parts, Open.glyphs, List.flatMap_append, flatMap_atomic hreverse]

variable {pending : Open}

theorem Open.reaches_of_compose? {code whole : Nat} (h : pending.compose? code = some whole) :
    pending.reaches (combiningClass code) = true := by
  unfold Open.compose? at h
  split at h
  · split at h
    · rename_i hreaches
      exact (Bool.and_eq_true_iff.mp hreaches).1
    · cases h
  · cases h

/-- A character reaches the starter over marks of lower classes, if there are any. -/
theorem Open.Kept.reaches (hkept : pending.Kept level) {code : Nat}
    (h : pending.reaches (combiningClass code) = true) :
    pending.kept = [] ∨ combiningClass code ≠ 0 ∧
      ∀ mark ∈ pending.kept, glyphClass mark ≠ 0 ∧ glyphClass mark ≠ combiningClass code := by
  unfold Open.reaches at h
  split at h
  · rename_i hnil
    exact Or.inl hnil
  · rename_i last earlier hcons
    simp only [Bool.and_eq_true, bne_iff_ne, decide_eq_true_eq] at h
    refine Or.inr ⟨by omega, fun mark hmark => ⟨hkept.ne_zero mark hmark, ?_⟩⟩
    have hpairwise := hkept.pairwise
    rw [hcons] at hmark hpairwise
    rcases List.mem_cons.mp hmark with rfl | hearlier
    · omega
    · have hle := (List.pairwise_cons.mp hpairwise).1 mark hearlier
      omega

theorem Open.Kept.push (hkept : pending.Kept level) (hglyph : decomposeGlyph glyph = [glyph])
    (hne : glyphClass glyph ≠ 0) (hlevel : level ≤ glyphClass glyph) :
    Open.Kept { pending with kept := glyph :: pending.kept } (glyphClass glyph) where
  atomic := List.forall_mem_cons.mpr ⟨hglyph, hkept.atomic⟩
  ne_zero := List.forall_mem_cons.mpr ⟨hne, hkept.ne_zero⟩
  le_level := List.forall_mem_cons.mpr
    ⟨Nat.le_refl _, fun mark hmark => (hkept.le_level mark hmark).trans hlevel⟩
  pairwise := List.pairwise_cons.mpr
    ⟨fun mark hmark => (hkept.le_level mark hmark).trans hlevel, hkept.pairwise⟩

/-- A character that composes with the starter moves to it, as a part of what they compose to. -/
theorem parts_compose {starter code whole : Nat} (hkept : Open.Kept ⟨some starter, marks⟩ level)
    (hglyph : decomposeGlyph (scalar code) = [scalar code])
    (hpair : composePair? starter code = some whole)
    (hreaches : Open.reaches ⟨some starter, marks⟩ (combiningClass code) = true)
    (rest : List Glyph) :
    Reorders (Open.parts ⟨some starter, marks⟩ ++ scalar code :: rest)
      (Open.parts ⟨some whole, marks⟩ ++ rest) := by
  have hparts : decomposeGlyph (scalar whole) =
      decomposeGlyph (scalar starter) ++ [scalar code] := by
    rw [← hglyph]
    simp only [decomposeGlyph, decompose_of_composePair? hpair, List.map_append]
  rw [Open.parts_eq hkept.atomic, Open.parts_eq hkept.atomic]
  simp only [Option.map_some, Option.toList_some, List.flatMap_singleton, hparts,
    List.append_assoc, List.singleton_append]
  refine .append_left _ ?_
  rcases hkept.reaches hreaches with hnil | ⟨hclass, hmarks⟩
  · obtain rfl : marks = [] := hnil
    exact .refl _
  · have hmark : glyphClass (scalar code) ≠ 0 := hclass
    exact .pass hmark (fun mark hmark => hmarks mark (List.mem_reverse.mp hmark)) rest

/-- Composing and decomposing again only moves marks over marks of other classes. -/
theorem composeFrom_reorders (hkept : pending.Kept level) (hatomic : AllAtomic glyphs)
    (hordered : Ordered level glyphs) :
    Reorders (pending.parts ++ glyphs) ((composeFrom pending glyphs).flatMap decomposeGlyph) := by
  induction glyphs generalizing pending level with
  | nil =>
    rw [composeFrom, List.append_nil]
    exact .refl _
  | cons glyph rest ih =>
    obtain ⟨hglyph, hrest⟩ := List.forall_mem_cons.mp hatomic
    obtain ⟨hclass, hordered⟩ := hordered
    cases glyph with
    | stray byte =>
      rw [composeFrom, List.flatMap_append, List.flatMap_cons, hglyph]
      exact .append_left _ (.cons _ (ih (Open.kept_nil none 0) hrest hordered))
    | scalar code =>
      rw [composeFrom]
      split
      · -- The character becomes a part of the starter; the kept marks are still below it.
        rename_i whole hwhole
        obtain ⟨starter, hstarter, hpair⟩ := Open.compose?_eq_some hwhole
        have hreaches := Open.reaches_of_compose? hwhole
        obtain ⟨_, marks⟩ := pending
        obtain rfl : _ = some starter := hstarter
        refine .trans (parts_compose hkept hglyph hpair hreaches rest) (ih ?_ hrest hordered)
        refine ⟨hkept.atomic, hkept.ne_zero, fun mark hmark => ?_, hkept.pairwise⟩
        rcases hkept.reaches hreaches with hnil | ⟨hne, -⟩
        · obtain rfl : marks = [] := hnil
          cases hmark
        · exact (hkept.le_level mark hmark).trans (hclass.resolve_left hne)
      · split
        · -- The character is the next starter.
          have hnext := ih (Open.kept_nil (some code) _) hrest hordered
          simp only [Open.parts, Open.glyphs, Option.map_some, Option.toList_some,
            List.flatMap_singleton, hglyph, List.reverse_nil, List.append_nil,
            List.singleton_append] at hnext
          rw [List.flatMap_append]
          exact .append_left _ hnext
        · -- The character is one more mark after the starter.
          rename_i hne
          rw [beq_iff_eq] at hne
          have hpush := hkept.push hglyph hne (hclass.resolve_left hne)
          have hnext := ih hpush hrest hordered
          rw [Open.parts_eq hpush.atomic, List.reverse_cons, ← List.append_assoc,
            ← Open.parts_eq hkept.atomic, List.append_assoc] at hnext
          exact hnext

end Composing

end Typeflow.Normal
