import Typeflow.Proofs.Arena.Totality

/-!
What the questions say about a type can be read off the type that the arena makes of it. Applying
leaves no bound variable and does nothing the second time. Whether a variable or the mark occurs
in a type, and whether two types are the same, is a matter of what stands where in the applied
types. However much the questions compress the paths of the arena, applying gives the same
afterwards.
-/

namespace Typeflow

namespace Ty

/-- The other type stands at some position of the type. -/
def Contains (ty part : Ty) : Prop := ∃ position, ty.at? position = some part

theorem contains_fn {params : List Ty} {result part : Ty} :
    (Ty.fn params result).Contains part ↔
      Ty.fn params result = part ∨ ∃ child ∈ params ++ [result], child.Contains part := by
  constructor
  · rintro ⟨position, hat⟩
    cases position with
    | nil => exact Or.inl (Option.some.inj hat)
    | cons index rest =>
      obtain ⟨child, hchild, hrest⟩ := Option.bind_eq_some_iff.mp hat
      exact Or.inr ⟨child, List.mem_of_getElem? hchild, rest, hrest⟩
  · rintro (rfl | ⟨child, hchild, rest, hrest⟩)
    · exact ⟨[], rfl⟩
    · obtain ⟨index, hindex⟩ := List.mem_iff_getElem?.mp hchild
      exact ⟨index :: rest, Option.bind_eq_some_iff.mpr ⟨child, hindex, hrest⟩⟩

theorem contains_of_parts_eq_nil {ty part : Ty} (h : ty.parts = []) :
    ty.Contains part ↔ ty = part := by
  constructor
  · rintro ⟨position, hat⟩
    cases position with
    | nil => exact Option.some.inj hat
    | cons index rest => simp [at?, h] at hat
  · rintro rfl
    exact ⟨[], rfl⟩

/-- What is found in a function type exactly if it is found in a part of it, and in any other type
exactly if it is that type, is found where it stands. -/
theorem contains_iff (found : Ty → Prop) {leaf : Ty} (hleaf : leaf.parts = [])
    (hfn : ∀ params result, found (.fn params result) ↔ (∃ p ∈ params, found p) ∨ found result)
    (hother : ∀ ty : Ty, ty.parts = [] → (found ty ↔ ty = leaf)) (ty : Ty) :
    ty.Contains leaf ↔ found ty := by
  induction ty using inductionOn with
  | fn params result ihp ihr =>
    have hne : Ty.fn params result ≠ leaf := by
      rintro rfl
      simp [parts] at hleaf
    rw [contains_fn, hfn, ← ihr]
    constructor
    · rintro (heq | ⟨child, hchild, hcontains⟩)
      · exact absurd heq hne
      · rcases List.mem_append.mp hchild with hp | hr
        · exact Or.inl ⟨child, hp, (ihp child hp).mp hcontains⟩
        · rw [List.mem_singleton.mp hr] at hcontains
          exact Or.inr hcontains
    · rintro (⟨p, hp, hfound⟩ | hcontains)
      · exact Or.inr ⟨p, List.mem_append_left _ hp, (ihp p hp).mpr hfound⟩
      · exact Or.inr ⟨result, by simp, hcontains⟩
  | name n => rw [contains_of_parts_eq_nil rfl, hother _ rfl]
  | var v => rw [contains_of_parts_eq_nil rfl, hother _ rfl]
  | unresolvable => rw [contains_of_parts_eq_nil rfl, hother _ rfl]
  | absent => rw [contains_of_parts_eq_nil rfl, hother _ rfl]

theorem contains_var {ty : Ty} {v : TypeVar} : ty.Contains (.var v) ↔ v ∈ ty.vars := by
  refine contains_iff (fun ty => v ∈ ty.vars) rfl (fun _ _ => mem_vars_fn) ?_ ty
  intro ty hparts
  cases ty with
  | fn params result => simp [parts] at hparts
  | var w => simp [eq_comm]
  | _ => simp

theorem contains_unresolvable {ty : Ty} :
    ty.Contains .unresolvable ↔ ty.mentionsUnresolvable = true := by
  refine contains_iff (fun ty => ty.mentionsUnresolvable = true) rfl ?_ ?_ ty
  · intro params result
    simp [mentionsUnresolvable, anyUnresolvable_eq_any]
  · intro ty hparts
    cases ty with
    | fn params result => simp [parts] at hparts
    | _ => simp [mentionsUnresolvable]

end Ty

namespace Arena

variable {arena : Arena} {ty left right : Ty}

/-- The question is answered, the answer has this property, and applying the arena to any type
gives afterwards what it gave before. -/
def Tells {α : Type} (arena : Arena) (ask : Query α) (holds : α → Prop) : Prop :=
  ∃ answer arena', ask arena = .ok answer arena' ∧ holds answer ∧
    ∀ ty value, arena'.Applies ty value ↔ arena.Applies ty value

theorem tells_of_ends {α : Type} {ask : Query α} {holds : α → Prop} (hwf : arena.WellFormed)
    (h : Ends ask arena (fun answer arena' => holds answer ∧ arena.Same arena')
      fun _ _ => False) :
    arena.Tells ask holds := by
  obtain ⟨answer, arena', hask, hholds, hsame⟩ := h.exists_ok
  exact ⟨answer, arena', hask, hholds, fun _ _ => hsame.applies_iff hwf⟩

theorem Tells.mono {α : Type} {ask : Query α} {holds holds' : α → Prop}
    (h : arena.Tells ask holds) (himp : ∀ answer, holds answer → holds' answer) :
    arena.Tells ask holds' := by
  obtain ⟨answer, arena', hask, hholds, hsame⟩ := h
  exact ⟨answer, arena', hask, himp answer hholds, hsame⟩

/-- Only unbound variables of the arena stand in a solved type. -/
theorem WellFormed.lookup_of_contains (hwf : arena.WellFormed) (hover : ty.Over arena)
    {v : TypeVar} (h : (ty.subst arena.solved).Contains (.var v)) :
    arena.lookup v = .ok none := by
  have hmem := Ty.contains_var.mp h
  obtain ⟨w, hw, hv⟩ := Ty.mem_vars_subst.mp hmem
  rw [lookup_of_owns (hwf.over_subst_solved hover v hmem), hwf.entry_of_mem_solved hv]

theorem WellFormed.solved_idempotent (hwf : arena.WellFormed) (ty : Ty) :
    (ty.subst arena.solved).subst arena.solved = ty.subst arena.solved :=
  hwf.subst_solved hwf.satisfies_solved ty

/-- The deep questions agree with plain tests on the applied types. In the applied type no bound
variable is left, and applying it again gives the same. An unbound variable occurs in a type
exactly if it stands in the applied type. A type is unresolvable exactly if the mark stands in the
applied type, and that is what the test of signatures says of the applied type. Two types are the
same exactly if the applied types are and the mark does not stand in them. None of the questions
changes what applying gives, for any type. -/
theorem questions_read_applied_types {arena : Arena} {left right : Ty} (hwf : arena.WellFormed)
    (hleft : left.Over arena) (hright : right.Over arena) (hleftNil : left.nilFree = true)
    (hrightNil : right.nilFree = true) :
    ∃ value other, arena.Tells (apply left) (· = value) ∧ arena.Tells (apply right) (· = other) ∧
      (∀ v, value.Contains (.var v) → arena.lookup v = .ok none) ∧
      arena.Tells (apply value) (· = value) ∧
      (∀ v, arena.lookup v = .ok none →
        arena.Tells (occurs v left) fun answer => answer = true ↔ value.Contains (.var v)) ∧
      arena.Tells (unresolvable left) (fun answer =>
        (answer = true ↔ value.Contains .unresolvable) ∧ answer = value.mentionsUnresolvable) ∧
      arena.Tells (identical left right) fun answer =>
        answer = true ↔ value = other ∧ ¬ value.Contains .unresolvable ∧
          ¬ other.Contains .unresolvable := by
  refine ⟨left.subst arena.solved, right.subst arena.solved,
    tells_of_ends hwf (apply_ends hwf hleft),
    tells_of_ends hwf (apply_ends hwf hright),
    fun v hv => hwf.lookup_of_contains hleft hv, ?_, ?_, ?_,
    ?_⟩
  · have happly := apply_ends hwf (hwf.over_subst_solved hleft)
    rw [hwf.solved_idempotent] at happly
    exact tells_of_ends hwf happly
  · intro v _
    simp only [Ty.contains_var]
    exact tells_of_ends hwf (occurs_total hwf hleft hleftNil v)
  · simp only [Ty.contains_unresolvable]
    refine tells_of_ends hwf ((unresolvable_total hwf hleft hleftNil).mono ?_ fun _ _ h => h)
    exact fun answer _ h => ⟨⟨h.1, Bool.eq_iff_iff.mpr h.1⟩, h.2⟩
  · simp only [Ty.contains_unresolvable, Bool.not_eq_true]
    refine tells_of_ends hwf ((identical_total hwf hleft hright hleftNil hrightNil).mono ?_
      fun _ _ h => h)
    rintro answer _ ⟨hanswer, hsame⟩
    refine ⟨hanswer.trans ?_, hsame⟩
    constructor
    · rintro ⟨heq, hmark⟩
      exact ⟨heq, hmark, heq ▸ hmark⟩
    · rintro ⟨heq, hmark, _⟩
      exact ⟨heq, hmark⟩

/-- `?0` leads through `?1` to `(?2, <unresolvable>) -> b`. In the application of `(?0) -> ?2` the
unbound `?2` and the mark both stand, so the type is not the same as itself. -/
theorem questions_read_applied_types_through_links :
    let b : Ty := .name ⟨[98]⟩
    let target : Ty := .fn [.var ⟨2⟩, .unresolvable] b
    let arena : Arena := ⟨#[some (.var ⟨1⟩), some target, none]⟩
    let ty : Ty := .fn [.var ⟨0⟩] (.var ⟨2⟩)
    arena.WellFormed ∧ ty.Over arena ∧ ty.nilFree = true ∧ arena.lookup ⟨2⟩ = .ok none ∧
      arena.Tells (apply ty) (· = .fn [target] (.var ⟨2⟩)) ∧
      arena.Tells (occurs ⟨2⟩ ty) (· = true) ∧ arena.Tells (unresolvable ty) (· = true) ∧
      arena.Tells (identical ty ty) (· = false) := by
  intro b target arena ty
  let start : Session := ⟨empty.grow 3, Trace.off⟩
  let linked : Session := ⟨⟨#[some (.var ⟨1⟩), none, none]⟩, Trace.off⟩
  have hlink : Unifier.unify (.var ⟨0⟩) (.var ⟨1⟩) start = .ok () linked := by rfl
  have hbind : Unifier.unify (.var ⟨1⟩) target linked = .ok () ⟨arena, Trace.off⟩ := by rfl
  have hgrows := ((Unifier.unify_ends (wellFormed_empty.grow 3) _ _).good_of_eq hlink).grows
  have hwf : arena.WellFormed :=
    ((Unifier.unify_ends hgrows.wellFormed _ _).good_of_eq hbind).grows.wellFormed
  have hover : ty.Over arena := by decide
  have hunbound : arena.lookup ⟨2⟩ = .ok none := by rfl
  obtain ⟨value, other, happly, _, _, _, hoccurs, hmark, hidentical⟩ :=
    questions_read_applied_types hwf hover hover rfl rfl
  have hvalue : value = .fn [target] (.var ⟨2⟩) := by
    obtain ⟨answer, arena', hask, rfl, _⟩ := happly
    exact Applies.unique ⟨arena', hask⟩ ⟨_, rfl⟩
  subst hvalue
  refine ⟨hwf, hover, rfl, hunbound, happly, (hoccurs _ hunbound).mono ?_, hmark.mono ?_,
    hidentical.mono ?_⟩
  · exact fun answer hanswer => hanswer.mpr (Ty.contains_var.mpr (by decide))
  · exact fun answer hanswer => hanswer.2
  · intro answer hanswer
    refine Bool.eq_false_iff.mpr fun htrue => (hanswer.mp htrue).2.1 ?_
    exact Ty.contains_unresolvable.mpr rfl

end Arena

end Typeflow
