import Typeflow.Arena.Query
import Typeflow.Proofs.Arena.Path

/-!
Questions about types in a well-formed arena. None of them changes what the arena means, whatever
type they are asked about and however they end. Applying the arena to a type over its variables
gives the type with the most general solution put in, and a variable that is said not to occur in
a type does not stand in the solved type.
-/

namespace Typeflow.Arena

variable {arena : Arena} {ty : Ty}

theorem resolve_keeps (ty : Ty) : Keeps arena.Same (resolve ty) := by
  intro arena' hsame
  exact (resolve_ends hsame.wellFormed ty).mono (fun _ _ h => hsame.trans h.1)
    fun _ _ h => hsame.trans h

theorem isBound_keeps (v : TypeVar) : Keeps arena.Same (isBound v) := by
  refine Keeps.bind (resolve_keeps _) fun resolved => ?_
  split <;> exact Keeps.pure _

theorem applyWithin_keeps (depth : Nat) (ty : Ty) : Keeps arena.Same (applyWithin depth ty) := by
  induction depth generalizing ty with
  | zero => exact Keeps.throw _
  | succ depth ih =>
    refine Keeps.bind (resolve_keeps ty) fun resolved => ?_
    split
    · exact Keeps.bind (Keeps.mapM _ fun p _ => ih p) fun _ =>
        Keeps.bind (ih _) fun _ => Keeps.pure _
    · exact Keeps.pure _

theorem occursWithin_keeps (v : TypeVar) (depth : Nat) (ty : Ty) :
    Keeps arena.Same (occursWithin v depth ty) := by
  induction depth generalizing ty with
  | zero => exact Keeps.throw _
  | succ depth ih =>
    refine Keeps.bind (resolve_keeps ty) fun resolved => ?_
    split
    · exact Keeps.pure _
    · exact Keeps.bind (Keeps.anyM _ fun p _ => ih p) fun _ => Keeps.ite (Keeps.pure _) (ih _)
    · exact Keeps.pure _
    · exact Keeps.pure _
    · exact Keeps.throw _

theorem unresolvableWithin_keeps (depth : Nat) (ty : Ty) :
    Keeps arena.Same (unresolvableWithin depth ty) := by
  induction depth generalizing ty with
  | zero => exact Keeps.throw _
  | succ depth ih =>
    refine Keeps.bind (resolve_keeps ty) fun resolved => ?_
    split
    · exact Keeps.pure _
    · exact Keeps.bind (Keeps.anyM _ fun p _ => ih p) fun _ => Keeps.ite (Keeps.pure _) (ih _)
    · exact Keeps.pure _
    · exact Keeps.pure _
    · exact Keeps.throw _

theorem identicalWithin_keeps (depth : Nat) (left right : Ty) :
    Keeps arena.Same (identicalWithin depth left right) := by
  induction depth generalizing left right with
  | zero => exact Keeps.throw _
  | succ depth ih =>
    refine Keeps.bind (resolve_keeps left) fun left =>
      Keeps.bind (resolve_keeps right) fun right => ?_
    split
    · exact Keeps.pure _
    · exact Keeps.pure _
    · refine Keeps.ite (Keeps.pure _) (Keeps.bind (Keeps.allM _ fun pair _ => ih _ _) fun _ => ?_)
      exact Keeps.ite (ih _ _) (Keeps.pure _)
    · exact Keeps.throw _
    · exact Keeps.pure _

theorem apply_keeps (ty : Ty) : Keeps arena.Same (apply ty) :=
  fun arena' hsame => applyWithin_keeps (arena'.depthBound [ty]) ty arena' hsame

theorem occurs_keeps (v : TypeVar) (ty : Ty) : Keeps arena.Same (occurs v ty) :=
  fun arena' hsame => occursWithin_keeps v (arena'.depthBound [ty]) ty arena' hsame

theorem unresolvable_keeps (ty : Ty) : Keeps arena.Same (unresolvable ty) :=
  fun arena' hsame => unresolvableWithin_keeps (arena'.depthBound [ty]) ty arena' hsame

theorem identical_keeps (left right : Ty) : Keeps arena.Same (identical left right) :=
  fun arena' hsame =>
    identicalWithin_keeps (arena'.depthBound [left, right]) left right arena' hsame

theorem applyWithin_ends (hwf : arena.WellFormed) {depth : Nat} (hover : ty.Over arena)
    (hheight : (ty.subst arena.solved).height ≤ depth) :
    Ends (applyWithin depth ty) arena
      (fun value arena' => value = ty.subst arena.solved ∧ arena.Same arena')
      fun _ _ => False := by
  induction depth generalizing arena ty with
  | zero =>
    have hpos := (ty.subst arena.solved).height_pos
    omega
  | succ depth ih =>
    refine Ends.bind (resolve_over hwf hover) ?_
    rintro resolved arena₁ ⟨hresolved, hsame₁⟩
    have hmeans := hresolved.subst_eq
    split
    · rename_i params result
      -- The parts are asked about in arenas that have been compressed further.
      have hparts := hresolved.over_iff.mpr hover
      rw [hmeans, Ty.subst_fn, Ty.height_fn_le_iff] at hheight
      have hpart : ∀ p, p.Over arena → (p.subst arena.solved).height ≤ depth →
          ∀ arena₂, arena.Same arena₂ → Ends (applyWithin depth p) arena₂
            (fun value arena' => value = p.subst arena.solved ∧ arena.Same arena')
            fun _ _ => False := by
        intro p hp hheight arena₂ hsame
        have hend := ih hsame.wellFormed (hsame.over_iff.mpr hp) (by rwa [hsame.solved_eq])
        rw [hsame.solved_eq] at hend
        exact hend.mono (fun _ _ h => ⟨h.1, hsame.trans h.2⟩) fun _ _ h => h
      have hparams := Ends.mapM params
        (fun p hp => hpart p (fun v hv => hparts v (Ty.mem_vars_fn.mpr (Or.inl ⟨p, hp, hv⟩)))
          (hheight.1 _ (List.mem_map_of_mem hp))) arena₁ hsame₁
      refine Ends.bind hparams ?_
      rintro _ arena₂ ⟨rfl, hsame₂⟩
      refine Ends.bind (hpart result (fun v hv => hparts v (Ty.mem_vars_fn.mpr (Or.inr hv)))
        hheight.2 arena₂ hsame₂) ?_
      rintro _ arena₃ ⟨rfl, hsame₃⟩
      refine Ends.pure ⟨?_, hsame₃⟩
      rw [hmeans, Ty.subst_fn]
    · rename_i hfn
      refine Ends.pure ⟨?_, hsame₁⟩
      rw [hmeans]
      cases resolved with
      | var v => exact (solved_unbound (hresolved.unbound v rfl).2).symm
      | fn params result => exact absurd rfl (hfn params result)
      | _ => rfl

theorem apply_ends (hwf : arena.WellFormed) (hover : ty.Over arena) :
    Ends (apply ty) arena (fun value arena' => value = ty.subst arena.solved ∧ arena.Same arena')
      fun _ _ => False :=
  applyWithin_ends hwf hover (hwf.height_subst_solved_le List.mem_cons_self hover)

/-- What is known of a type in which a variable was not found. -/
def Lacks (arena : Arena) (v : TypeVar) (ty : Ty) : Prop :=
  ty.Over arena ∧ ty.nilFree = true ∧ v ∉ (ty.subst arena.solved).vars

theorem Resolved.lacks {resolved : Ty} {v : TypeVar} (h : arena.Resolved ty resolved)
    (hlacks : arena.Lacks v resolved) : arena.Lacks v ty := by
  obtain ⟨hover, hnil, hnot⟩ := hlacks
  refine ⟨h.over_iff.mp hover, ?_, ?_⟩
  · rw [← h.nilFree_eq]
    exact hnil
  · rw [h.subst_eq]
    exact hnot

theorem lacks_var {v w : TypeVar} (hw : arena.Owns w) (hunbound : arena.entry w = none)
    (hne : v ≠ w) :
    arena.Lacks v (.var w) := by
  refine ⟨fun x hx => Ty.mem_vars_var.mp hx ▸ hw, rfl, ?_⟩
  rw [Ty.subst_var, solved_unbound hunbound, Ty.mem_vars_var]
  exact hne

theorem lacks_fn {v : TypeVar} {params : List Ty} {result : Ty}
    (hparams : ∀ p ∈ params, arena.Lacks v p) (hresult : arena.Lacks v result) :
    arena.Lacks v (.fn params result) := by
  refine ⟨?_, ?_, ?_⟩
  · intro w hw
    rcases Ty.mem_vars_fn.mp hw with ⟨p, hp, hw⟩ | hw
    · exact (hparams p hp).1 w hw
    · exact hresult.1 w hw
  · exact Ty.nilFree_fn.mpr ⟨fun p hp => (hparams p hp).2.1, hresult.2.1⟩
  · rw [Ty.subst_fn, Ty.mem_vars_fn]
    rintro (⟨q, hq, hv⟩ | hv)
    · obtain ⟨p, hp, rfl⟩ := List.mem_map.mp hq
      exact (hparams p hp).2.2 hv
    · exact hresult.2.2 hv

theorem Same.lacks_iff {arena' : Arena} (h : arena.Same arena') {v : TypeVar} :
    arena'.Lacks v ty ↔ arena.Lacks v ty := by
  unfold Lacks
  rw [h.over_iff, h.solved_eq]

theorem occursWithin_ends (hwf : arena.WellFormed) (v : TypeVar) (depth : Nat) (ty : Ty) :
    Ends (occursWithin v depth ty) arena
      (fun answer arena' => (if answer then True else arena.Lacks v ty) ∧ arena.Same arena')
      fun _ arena' => arena.Same arena' := by
  induction depth generalizing arena ty with
  | zero => exact Ends.throw (Same.refl hwf)
  | succ depth ih =>
    refine Ends.bind (resolve_ends hwf ty) ?_
    rintro resolved arena₁ ⟨hsame₁, hresolved⟩
    have hpart : ∀ p arena₂, arena.Same arena₂ → Ends (occursWithin v depth p) arena₂
        (fun answer arena' => (if answer then True else arena.Lacks v p) ∧ arena.Same arena')
        fun _ arena' => arena.Same arena' := by
      intro p arena₂ hsame
      refine (ih hsame.wellFormed p).mono ?_ fun _ _ h => hsame.trans h
      rintro answer arena' ⟨hanswer, hsame'⟩
      rw [hsame.lacks_iff] at hanswer
      exact ⟨hanswer, hsame.trans hsame'⟩
    split
    · rename_i w
      refine Ends.pure ⟨?_, hsame₁⟩
      by_cases hw : w = v
      · simp [hw]
      · obtain ⟨howns, hunbound⟩ := hresolved.unbound w rfl
        have hlacks : arena.Lacks v (.var w) := lacks_var howns hunbound (Ne.symm hw)
        simpa [hw] using hresolved.lacks hlacks
    · rename_i params result
      refine Ends.bind (Ends.anyM params (fun p _ => hpart p) arena₁ hsame₁) ?_
      rintro answer arena₂ ⟨hanswer, hsame₂⟩
      cases answer with
      | true => exact Ends.pure ⟨trivial, hsame₂⟩
      | false =>
        refine (hpart result arena₂ hsame₂).mono ?_ fun _ _ h => h
        rintro answer arena₃ ⟨hresult, hsame₃⟩
        refine ⟨?_, hsame₃⟩
        cases answer with
        | true => trivial
        | false => exact hresolved.lacks (lacks_fn hanswer hresult)
    · exact Ends.pure ⟨hresolved.lacks ⟨by simp [Ty.Over], rfl, by simp⟩, hsame₁⟩
    · exact Ends.pure ⟨hresolved.lacks ⟨by simp [Ty.Over], rfl, by simp⟩, hsame₁⟩
    · exact Ends.throw hsame₁

/-- A variable that does not occur in a type does not stand in the solved type. -/
theorem occurs_ends (hwf : arena.WellFormed) (v : TypeVar) (ty : Ty) :
    Ends (occurs v ty) arena
      (fun answer arena' => (if answer then True else arena.Lacks v ty) ∧ arena.Same arena')
      fun _ arena' => arena.Same arena' :=
  occursWithin_ends hwf v (arena.depthBound [ty]) ty

end Typeflow.Arena
