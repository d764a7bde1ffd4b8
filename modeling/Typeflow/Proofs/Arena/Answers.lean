import Typeflow.Proofs.Arena.History

/-!
Exact answers to questions in a well-formed arena. Applying the arena succeeds on the types over
its variables and on no others. The questions whether a variable or the unresolvable mark occurs
in a type are searches for a leaf; on a type over the arena without empty places such a search has
an end, and it finds what stands in the solved type.
-/

namespace Typeflow.Arena

variable {arena arena' : Arena} {ty value : Ty} {v : TypeVar}

/-- Applying the arena to the type gives this value. -/
def Applies (arena : Arena) (ty value : Ty) : Prop := ∃ arena', apply ty arena = .ok value arena'

theorem Applies.unique {value' : Ty} (h : arena.Applies ty value) (h' : arena.Applies ty value') :
    value = value' := by
  obtain ⟨arena₁, happly⟩ := h
  obtain ⟨arena₂, happly'⟩ := h'
  rw [happly] at happly'
  cases happly'
  rfl

theorem applyWithin_over (hwf : arena.WellFormed) (depth : Nat) (ty : Ty) :
    Ends (applyWithin depth ty) arena (fun _ arena' => ty.Over arena ∧ arena.Same arena')
      fun _ _ => True := by
  induction depth generalizing arena ty with
  | zero => exact Ends.throw trivial
  | succ depth ih =>
    refine Ends.bind ((resolve_ends hwf ty).mono (fun _ _ h => h) fun _ _ _ => trivial) ?_
    rintro resolved arena₁ ⟨hsame₁, hresolved⟩
    have hpart : ∀ p arena₂, arena.Same arena₂ → Ends (applyWithin depth p) arena₂
        (fun _ arena' => p.Over arena ∧ arena.Same arena') fun _ _ => True := by
      intro p arena₂ hsame
      refine (ih hsame.wellFormed p).mono ?_ fun _ _ h => h
      rintro _ arena' ⟨hover, hsame'⟩
      exact ⟨hsame.over_iff.mp hover, hsame.trans hsame'⟩
    split
    · rename_i params result
      refine Ends.bind (Ends.mapM_holds params (fun p _ => hpart p) arena₁ hsame₁) ?_
      rintro _ arena₂ ⟨hparams, hsame₂⟩
      refine Ends.bind (hpart result arena₂ hsame₂) ?_
      rintro _ arena₃ ⟨hresult, hsame₃⟩
      refine Ends.pure ⟨hresolved.over_iff.mp ?_, hsame₃⟩
      intro w hw
      rcases Ty.mem_vars_fn.mp hw with ⟨p, hp, hw⟩ | hw
      · exact hparams p hp w hw
      · exact hresult w hw
    · rename_i hfn
      refine Ends.pure ⟨hresolved.over_iff.mp ?_, hsame₁⟩
      intro w hw
      cases resolved with
      | var x =>
        rw [Ty.mem_vars_var.mp hw]
        exact (hresolved.unbound x rfl).1
      | fn params result => exact absurd rfl (hfn params result)
      | _ => simp at hw

/-- Applying puts the most general solution into a type over the arena, and fails on any other. -/
theorem applies_iff (hwf : arena.WellFormed) :
    arena.Applies ty value ↔ ty.Over arena ∧ value = ty.subst arena.solved := by
  constructor
  · rintro ⟨arena', happly⟩
    have hover := ((applyWithin_over hwf (arena.depthBound [ty]) ty).good_of_eq happly).1
    exact ⟨hover, ((apply_ends hwf hover).good_of_eq happly).1⟩
  · rintro ⟨hover, rfl⟩
    obtain ⟨_, arena', happly, rfl, _⟩ := (apply_ends hwf hover).exists_ok
    exact ⟨arena', happly⟩

theorem Same.applies_iff (h : arena.Same arena') (hwf : arena.WellFormed) :
    arena'.Applies ty value ↔ arena.Applies ty value := by
  rw [Arena.applies_iff h.wellFormed, Arena.applies_iff hwf, h.over_iff, h.solved_eq]

/-- The question searches for a leaf: function types are searched part by part, empty places are
refused, and every other type is tested. -/
def IsSearch (ask : Nat → Ty → Query Bool) (test : Ty → Bool) : Prop :=
  ∀ depth ty, ask (depth + 1) ty = do
    match ← resolve ty with
    | .fn params result =>
      if ← params.anyM (ask depth) then return true else ask depth result
    | .absent => throw .unreachable
    | leaf => return test leaf

theorem isSearch_occursWithin (v : TypeVar) :
    IsSearch (occursWithin v) fun leaf => decide (leaf = .var v) := by
  intro depth ty
  rw [occursWithin, Resolver.occursWithin]
  refine congrArg (resolve ty >>= ·) (funext fun resolved => ?_)
  cases resolved <;> simp

theorem isSearch_unresolvableWithin : IsSearch unresolvableWithin Ty.isUnresolvable := by
  intro depth ty
  rw [unresolvableWithin, Resolver.unresolvableWithin]
  refine congrArg (resolve ty >>= ·) (funext fun resolved => ?_)
  cases resolved <;> rfl

/-- A search with enough depth finds what stands in the solved type. -/
theorem IsSearch.ends {ask : Nat → Ty → Query Bool} {test : Ty → Bool} (hask : IsSearch ask test)
    (found : Ty → Prop)
    (hfn : ∀ params result, found (.fn params result) ↔ (∃ p ∈ params, found p) ∨ found result)
    (hleaf : ∀ leaf, (∀ params result, leaf ≠ .fn params result) →
      (test leaf = true ↔ found leaf))
    (hwf : arena.WellFormed) {depth : Nat} (hover : ty.Over arena) (hnil : ty.nilFree = true)
    (hheight : (ty.subst arena.solved).height ≤ depth) :
    Ends (ask depth ty) arena
      (fun answer arena' => (answer = true ↔ found (ty.subst arena.solved)) ∧ arena.Same arena')
      fun _ _ => False := by
  induction depth generalizing arena ty with
  | zero =>
    have hpos := (ty.subst arena.solved).height_pos
    omega
  | succ depth ih =>
    rw [hask]
    refine Ends.bind (resolve_over hwf hover) ?_
    rintro resolved arena₁ ⟨hresolved, hsame₁⟩
    have hover' := hresolved.over_iff.mpr hover
    have hnil' := hresolved.nilFree_eq.trans hnil
    rw [hresolved.subst_eq] at hheight ⊢
    cases resolved with
    | fn params result =>
      rw [Ty.subst_fn, Ty.height_fn_le_iff] at hheight
      obtain ⟨hnils, hnilResult⟩ := Ty.nilFree_fn.mp hnil'
      have hpart : ∀ p, p.Over arena → p.nilFree = true → (p.subst arena.solved).height ≤ depth →
          ∀ arena₂, arena.Same arena₂ → Ends (ask depth p) arena₂
            (fun answer arena' => (if answer then found (p.subst arena.solved)
              else ¬ found (p.subst arena.solved)) ∧ arena.Same arena') fun _ _ => False := by
        intro p hp hnil hheight arena₂ hsame
        have hend := ih hsame.wellFormed (hsame.over_iff.mpr hp) hnil (by rwa [hsame.solved_eq])
        rw [hsame.solved_eq] at hend
        refine hend.mono ?_ fun _ _ h => h
        rintro answer arena' ⟨hanswer, hsame'⟩
        refine ⟨?_, hsame.trans hsame'⟩
        cases answer with
        | true => exact hanswer.mp rfl
        | false => exact fun hfound => Bool.false_ne_true (hanswer.mpr hfound)
      refine Ends.bind (Ends.anyM params (fun p hp => hpart p
        (fun w hw => hover' w (Ty.mem_vars_fn.mpr (Or.inl ⟨p, hp, hw⟩))) (hnils p hp)
        (hheight.1 _ (List.mem_map_of_mem hp))) arena₁ hsame₁) ?_
      rintro answer arena₂ ⟨hanswer, hsame₂⟩
      rw [Ty.subst_fn, hfn]
      cases answer with
      | true =>
        obtain ⟨p, hp, hfound⟩ := hanswer
        exact Ends.pure ⟨iff_of_true rfl (Or.inl ⟨_, List.mem_map_of_mem hp, hfound⟩), hsame₂⟩
      | false =>
        have hnone : ¬ ∃ q ∈ params.map (Ty.subst arena.solved), found q := by
          rintro ⟨q, hq, hfound⟩
          obtain ⟨p, hp, rfl⟩ := List.mem_map.mp hq
          exact hanswer p hp hfound
        refine (hpart result (fun w hw => hover' w (Ty.mem_vars_fn.mpr (Or.inr hw))) hnilResult
          hheight.2 arena₂ hsame₂).mono ?_ fun _ _ h => h
        rintro answer arena₃ ⟨hresult, hsame₃⟩
        refine ⟨?_, hsame₃⟩
        cases answer with
        | true => exact iff_of_true rfl (Or.inr hresult)
        | false => exact iff_of_false (by simp) (not_or.mpr ⟨hnone, hresult⟩)
    | absent => cases hnil'
    | var w =>
      rw [Ty.subst_var, solved_unbound (hresolved.unbound w rfl).2]
      exact Ends.pure ⟨hleaf _ (by simp), hsame₁⟩
    | _ => exact Ends.pure ⟨hleaf _ (by simp), hsame₁⟩

theorem occurs_total (hwf : arena.WellFormed) (hover : ty.Over arena) (hnil : ty.nilFree = true)
    (v : TypeVar) :
    Ends (occurs v ty) arena
      (fun answer arena' =>
        (answer = true ↔ v ∈ (ty.subst arena.solved).vars) ∧ arena.Same arena')
      fun _ _ => False := by
  refine (isSearch_occursWithin v).ends (fun t => v ∈ t.vars) (fun _ _ => Ty.mem_vars_fn) ?_ hwf
    hover hnil (hwf.height_subst_solved_le List.mem_cons_self hover)
  intro leaf hleaf
  cases leaf with
  | fn params result => exact absurd rfl (hleaf params result)
  | var w => simp [eq_comm]
  | _ => simp

theorem unresolvable_total (hwf : arena.WellFormed) (hover : ty.Over arena)
    (hnil : ty.nilFree = true) :
    Ends (unresolvable ty) arena
      (fun answer arena' => (answer = true ↔
        (ty.subst arena.solved).mentionsUnresolvable = true) ∧ arena.Same arena')
      fun _ _ => False := by
  refine isSearch_unresolvableWithin.ends (fun t => t.mentionsUnresolvable = true) ?_ ?_ hwf hover
    hnil (hwf.height_subst_solved_le List.mem_cons_self hover)
  · intro params result
    simp [Ty.mentionsUnresolvable, Ty.anyUnresolvable_eq_any]
  · intro leaf hleaf
    cases leaf with
    | fn params result => exact absurd rfl (hleaf params result)
    | _ => simp [Ty.isUnresolvable, Ty.mentionsUnresolvable]

theorem anyUnresolvable_total {α : Type} (hwf : arena.WellFormed) (f : α → Ty) (xs : List α)
    (hover : ∀ x ∈ xs, (f x).Over arena) (hnil : ∀ x ∈ xs, (f x).nilFree = true) :
    Ends (xs.anyM fun x => unresolvable (f x)) arena
      (fun answer arena' => (answer = true ↔
        ∃ x ∈ xs, ((f x).subst arena.solved).mentionsUnresolvable = true) ∧ arena.Same arena')
      fun _ _ => False := by
  have hany : Ends (xs.anyM fun x => unresolvable (f x)) arena
      (fun answer arena' => (if answer then
          ∃ x ∈ xs, ((f x).subst arena.solved).mentionsUnresolvable = true
        else ∀ x ∈ xs, ((f x).subst arena.solved).mentionsUnresolvable = false) ∧
        arena.Same arena') fun _ _ => False := by
    refine Ends.anyM xs ?_ arena (Same.refl hwf)
    intro x hx arena₁ hsame
    refine (unresolvable_total hsame.wellFormed (hsame.over_iff.mpr (hover x hx))
      (hnil x hx)).mono ?_
      fun _ _ h => h
    rintro answer arena₂ ⟨hanswer, hsame'⟩
    rw [hsame.solved_eq] at hanswer
    refine ⟨?_, hsame.trans hsame'⟩
    cases answer with
    | true => exact hanswer.mp rfl
    | false => simpa using hanswer
  refine hany.mono ?_ fun _ _ h => h
  rintro answer arena₁ ⟨hanswer, hsame⟩
  refine ⟨?_, hsame⟩
  cases answer with
  | true => exact iff_of_true rfl hanswer
  | false =>
    refine iff_of_false (by simp) ?_
    rintro ⟨x, hx, hmark⟩
    rw [hanswer x hx] at hmark
    cases hmark

/-- A variable is bound if its solution is anything but a variable. -/
theorem isBound_total (hwf : arena.WellFormed) (hv : arena.Owns v) :
    Ends (isBound v) arena
      (fun answer arena' => (answer = true ↔ ∀ w, arena.solved v ≠ .var w) ∧ arena.Same arena')
      fun _ _ => False :=
  ((isBound_ends hwf hv).and (isBound_keeps v arena (Same.refl hwf))).mono (fun _ _ h => h)
    fun _ _ h => h.1

end Typeflow.Arena
