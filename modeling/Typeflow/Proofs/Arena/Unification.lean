import Typeflow.Proofs.Arena.Queries
import Typeflow.Proofs.Session

/-!
Unification in a well-formed arena. However it ends, the arena stays well-formed and its solutions
were solutions before. If it succeeds, its solutions are exactly the earlier ones that make the
two types equal, so the arena holds a most general unifier. Binding a variable is the only step
that changes the meaning; the occurs check is what keeps the arena free of cycles there.
-/

namespace Typeflow

theorem Ty.map_subst_eq_iff {s : TypeVar → Ty} {params params' : List Ty}
    (h : params.length = params'.length) :
    params.map (subst s) = params'.map (subst s) ↔
      ∀ pair ∈ params.zip params', pair.1.subst s = pair.2.subst s := by
  induction params generalizing params' with
  | nil =>
    have hnil : params' = [] := List.length_eq_zero_iff.mp h.symm
    simp [hnil]
  | cons p rest ih =>
    cases params' with
    | nil => cases h
    | cons q rest' =>
      have hrest := ih (Nat.succ.inj h)
      simp only [List.map_cons, List.cons.injEq, hrest, List.zip_cons_cons, List.forall_mem_cons]

theorem Ty.subst_fn_eq_iff {s : TypeVar → Ty} {params params' : List Ty} {result result' : Ty}
    (h : params.length = params'.length) :
    (Ty.fn params result).subst s = (Ty.fn params' result').subst s ↔
      (∀ pair ∈ params.zip params', pair.1.subst s = pair.2.subst s) ∧
        result.subst s = result'.subst s := by
  rw [subst_fn, subst_fn, fn.injEq, map_subst_eq_iff h]

namespace Arena

/-- The second arena knows at least what the first knows, and is well-formed. -/
structure Grows (arena arena' : Arena) : Prop where
  wellFormed : arena'.WellFormed
  size_le : arena.size ≤ arena'.size
  bound : ∀ v, arena'.entry v = none → arena.entry v = none
  satisfies : ∀ s, arena'.Satisfies s → arena.Satisfies s

/-- The second arena knows what the first knows and that the two types are equal. -/
structure Unified (arena : Arena) (left right : Ty) (arena' : Arena) : Prop where
  grows : arena.Grows arena'
  satisfies_iff : ∀ s, arena'.Satisfies s ↔ arena.Satisfies s ∧ left.subst s = right.subst s

variable {arena arena' arena'' : Arena} {left right ty : Ty} {v : TypeVar}

theorem Grows.refl (h : arena.WellFormed) : arena.Grows arena :=
  ⟨h, Nat.le_refl _, fun _ hv => hv, fun _ hs => hs⟩

theorem Grows.trans (h : arena.Grows arena') (h' : arena'.Grows arena'') :
    arena.Grows arena'' :=
  ⟨h'.wellFormed, Nat.le_trans h.size_le h'.size_le, fun v hv => h.bound v (h'.bound v hv),
    fun s hs => h.satisfies s (h'.satisfies s hs)⟩

theorem Grows.owns (h : arena.Grows arena') (hv : arena.Owns v) : arena'.Owns v := by
  obtain ⟨hlow, hhigh⟩ := hv
  have hsize := h.size_le
  exact ⟨hlow, by omega⟩

theorem Grows.owned (h : arena.Grows arena') (hty : ty.Over arena) : ty.Over arena' :=
  fun w hw => h.owns (hty w hw)

theorem Same.grows (hwf : arena.WellFormed) (h : arena.Same arena') : arena.Grows arena' :=
  ⟨h.wellFormed, Nat.le_of_eq h.size_eq.symm, fun _ hv => (h.entry_eq_none_iff hwf).mp hv,
    fun _ hs => (h.satisfies_iff hwf).mp hs⟩

theorem WellFormed.grows_grow (hwf : arena.WellFormed) (count : Nat) :
    arena.Grows (arena.grow count) := by
  refine ⟨hwf.grow count, ?_, ?_, ?_⟩
  · rw [size_grow]
    omega
  · intro v hv
    rw [entry_grow] at hv
    exact hv
  · intro s hs v ty hty
    rw [← entry_grow arena count] at hty
    exact hs v ty hty

theorem Resolved.subst_of_satisfies (hwf : arena.WellFormed) {resolved : Ty}
    (h : arena.Resolved ty resolved) {s : TypeVar → Ty} (hs : arena.Satisfies s) :
    ty.subst s = resolved.subst s := by
  rw [← hwf.subst_solved hs ty, h.subst_eq, hwf.subst_solved hs]

theorem Resolved.subst_of_grows (hwf : arena.WellFormed) {resolved : Ty}
    (h : arena.Resolved ty resolved) (hgrows : arena.Grows arena') :
    ty.subst arena'.solved = resolved.subst arena'.solved :=
  h.subst_of_satisfies hwf (hgrows.satisfies _ hgrows.wellFormed.satisfies_solved)

theorem Grows.subst_eq (hwf : arena.WellFormed) (h : arena.Grows arena')
    (heq : left.subst arena.solved = right.subst arena.solved) :
    left.subst arena'.solved = right.subst arena'.solved := by
  have hsolution := h.satisfies _ h.wellFormed.satisfies_solved
  rw [← hwf.subst_solved hsolution left, heq, hwf.subst_solved hsolution]

theorem mem_solved_of_reaches (hwf : arena.WellFormed) {w : TypeVar}
    (hunbound : arena.entry v = none) (h : Relation.ReflTransGen arena.Links w v) :
    v ∈ (arena.solved w).vars := by
  induction h using Relation.ReflTransGen.head_induction_on with
  | refl =>
    rw [solved_unbound hunbound]
    simp
  | head hlink _ ih =>
    obtain ⟨ty, hentry, hmem⟩ := hlink
    rw [hwf.solved_of_entry hentry]
    exact Ty.mem_vars_subst.mpr ⟨_, hmem, ih⟩

/-- A way through the arena with a new entry either was there before, or it passes the variable
with the new entry. -/
theorem reaches_of_assign (howns : arena.Owns v) (hnil : ty.nilFree = true) {x y : TypeVar}
    (h : Relation.TransGen (arena.assign v ty).Links x y) :
    Relation.TransGen arena.Links x y ∨
      Relation.ReflTransGen arena.Links x v ∧
        ∃ w ∈ ty.vars, Relation.ReflTransGen arena.Links w y := by
  induction h with
  | single hlink =>
    rcases links_of_assign howns hnil hlink with hold | ⟨rfl, hmem⟩
    · exact Or.inl (.single hold)
    · exact Or.inr ⟨.refl, _, hmem, .refl⟩
  | tail _ hlink ih =>
    rcases links_of_assign howns hnil hlink with hold | ⟨rfl, hmem⟩
    · rcases ih with hway | ⟨hto, w, hw, hfrom⟩
      · exact Or.inl (hway.tail hold)
      · exact Or.inr ⟨hto, w, hw, hfrom.tail hold⟩
    · rcases ih with hway | ⟨hto, _⟩
      · exact Or.inr ⟨hway.to_reflTransGen, _, hmem, .refl⟩
      · exact Or.inr ⟨hto, _, hmem, .refl⟩

/-- Binding an unbound variable to a type in which it does not stand adds one equation. -/
theorem unified_assign (hwf : arena.WellFormed) (howns : arena.Owns v)
    (hunbound : arena.entry v = none) (hlacks : arena.Lacks v ty) :
    arena.Unified (.var v) ty (arena.assign v ty) := by
  obtain ⟨hover, hnil, hnot⟩ := hlacks
  have hnew := entry_assign howns (Ty.ne_absent_of_nilFree hnil)
  -- A cycle through the new entry leads from a variable of `ty` back to `v`, and the occurs check
  -- has ruled that out.
  have hwf' : (arena.assign v ty).WellFormed := by
    refine hwf.assign howns hover hnil fun x hcycle => ?_
    rcases reaches_of_assign howns hnil hcycle with hold | ⟨hto, w, hw, hfrom⟩
    · exact hwf.acyclic x hold
    · have hmem := mem_solved_of_reaches hwf hunbound (hfrom.trans hto)
      exact hnot (Ty.mem_vars_subst.mpr ⟨w, hw, hmem⟩)
  have hsatisfies : ∀ s, (arena.assign v ty).Satisfies s ↔
      arena.Satisfies s ∧ (Ty.var v).subst s = ty.subst s := by
    intro s
    constructor
    · intro hs
      refine ⟨?_, hs v ty (by rw [hnew, if_pos rfl])⟩
      intro w u hu
      have hne : w ≠ v := by
        rintro rfl
        rw [hunbound] at hu
        cases hu
      exact hs w u (by rw [hnew, if_neg hne, hu])
    · rintro ⟨hs, heq⟩ w u hu
      rw [hnew] at hu
      split at hu
      · rename_i hw
        cases hu
        rw [hw]
        exact heq
      · exact hs w u hu
  refine ⟨⟨hwf', Nat.le_of_eq (size_assign arena v ty).symm, ?_, ?_⟩, hsatisfies⟩
  · exact fun w hw => entry_of_assign_eq_none howns hnil hw
  · exact fun s hs => ((hsatisfies s).mp hs).1

theorem Unified.symm (h : arena.Unified left right arena') : arena.Unified right left arena' :=
  ⟨h.grows, fun s => (h.satisfies_iff s).trans (and_congr_right fun _ => eq_comm)⟩

/-- It does not matter whether types are unified before or after they have been resolved. -/
theorem Unified.of_resolved (hwf : arena.WellFormed) {left' right' : Ty}
    (hsame : arena.Same arena') (hleft : arena.Resolved left left')
    (hright : arena.Resolved right right') (h : arena'.Unified left' right' arena'') :
    arena.Unified left right arena'' := by
  refine ⟨(hsame.grows hwf).trans h.grows, fun s => ?_⟩
  rw [h.satisfies_iff, hsame.satisfies_iff hwf]
  refine and_congr_right fun hs => ?_
  rw [hleft.subst_of_satisfies hwf hs, hright.subst_of_satisfies hwf hs]

theorem Same.resolved_iff (h : arena.Same arena') (hwf : arena.WellFormed) {resolved : Ty} :
    arena'.Resolved ty resolved ↔ arena.Resolved ty resolved := by
  constructor
  · rintro ⟨hsubst, hunbound, hover, hnil⟩
    rw [h.solved_eq] at hsubst
    rw [h.over_iff, h.over_iff] at hover
    refine ⟨hsubst, fun v hv => ?_, hover, hnil⟩
    obtain ⟨howns, hentry⟩ := hunbound v hv
    exact ⟨h.owns_iff.mp howns, (h.entry_eq_none_iff hwf).mp hentry⟩
  · rintro ⟨hsubst, hunbound, hover, hnil⟩
    rw [← h.solved_eq] at hsubst
    rw [← h.over_iff, ← h.over_iff] at hover
    refine ⟨hsubst, fun v hv => ?_, hover, hnil⟩
    obtain ⟨howns, hentry⟩ := hunbound v hv
    exact ⟨h.owns_iff.mpr howns, (h.entry_eq_none_iff hwf).mpr hentry⟩

end Arena

namespace Unifier

variable {session : Session} {v : TypeVar} {left right ty : Ty}

theorem write_arena (channel : Channel) (line : Text) (session : Session) :
    Ends (write channel line) session (fun _ s' => s'.arena = session.arena)
      fun _ s' => s'.arena = session.arena := by
  unfold Ends write
  cases Trace.write channel line session.trace <;> rfl

theorem query_same {α : Type} {ask : Query α} {arena : Arena} (hask : Keeps arena.Same ask) :
    Keeps (fun s : Session => arena.Same s.arena) (query ask) :=
  fun session hsame => query_ends (hask session.arena hsame)

theorem lookup_unbound (howns : session.arena.Owns v) (hunbound : session.arena.entry v = none) :
    lookup v session = .ok none session := by
  unfold lookup
  rw [Arena.lookup_of_owns howns, hunbound]

theorem substitute_ends (hwf : session.arena.WellFormed) (howns : session.arena.Owns v)
    (hunbound : session.arena.entry v = none) (hlacks : session.arena.Lacks v ty) :
    Ends (substitute v ty) session
      (fun _ s' => session.arena.Unified (.var v) ty s'.arena)
      fun _ s' => session.arena.Grows s'.arena := by
  refine Ends.bind_of_ok (lookup_unbound howns hunbound) ?_
  refine Ends.bind ((write_arena _ _ session).mono (fun _ _ h => h) fun _ s' h => ?_) ?_
  · rw [h]
    exact Arena.Grows.refl hwf
  · intro _ s' hs'
    have hbound := Arena.unified_assign hwf howns hunbound hlacks
    rw [← hs'] at hbound ⊢
    exact hbound

theorem refuse_ends (hwf : session.arena.WellFormed) (reason : Ty → Ty → InferenceError) :
    Ends (refuse reason left right) session
      (fun _ s' => session.arena.Unified left right s'.arena)
      fun _ s' => session.arena.Grows s'.arena := by
  have happly : ∀ ty (s : Session), session.arena.Same s.arena →
      Ends (query (Arena.apply ty)) s (fun _ s' => session.arena.Same s'.arena)
        fun _ s' => session.arena.Grows s'.arena := fun ty s hs =>
    (query_same (Arena.apply_keeps ty) s hs).mono (fun _ _ h => h) fun _ _ h => h.grows hwf
  refine Ends.bind (happly left session (Arena.Same.refl hwf)) fun _ s₁ hs₁ => ?_
  refine Ends.bind (happly right s₁ hs₁) fun _ s₂ hs₂ => ?_
  exact Ends.throw (hs₂.grows hwf)

/-- Binding an unbound variable either makes it equal to the type or fails. -/
theorem bindVar_ends (hwf : session.arena.WellFormed) (howns : session.arena.Owns v)
    (hunbound : session.arena.entry v = none)
    (hvar : ∀ w, ty = .var w → w ≠ v ∧ session.arena.Owns w ∧ session.arena.entry w = none) :
    Ends (bindVar v ty) session
      (fun _ s' => session.arena.Unified (.var v) ty s'.arena)
      fun _ s' => session.arena.Grows s'.arena := by
  unfold bindVar Resolver.bindVar
  split
  · rename_i w
    obtain ⟨hne, hw, hwunbound⟩ := hvar w rfl
    exact substitute_ends hwf howns hunbound (Arena.lacks_var hw hwunbound (Ne.symm hne))
  · have hoccurs : Ends (query (Arena.occurs v ty)) session
        (fun answer s' => (if answer then True else session.arena.Lacks v ty) ∧
          session.arena.Same s'.arena) fun _ s' => session.arena.Grows s'.arena :=
      query_ends ((Arena.occurs_ends hwf v ty).mono (fun _ _ h => h) fun _ _ h => h.grows hwf)
    refine Ends.bind hoccurs ?_
    rintro answer s₁ ⟨hanswer, hsame⟩
    cases answer with
    | true =>
      refine Ends.bind (query_same (Arena.apply_keeps ty) s₁ hsame |>.mono (fun _ _ h => h)
        fun _ _ h => h.grows hwf) fun _ s₂ hsame₂ => ?_
      exact Ends.throw (hsame₂.grows hwf)
    | false =>
      have hbind := substitute_ends hsame.wellFormed (hsame.owns_iff.mpr howns)
        ((hsame.entry_eq_none_iff hwf).mpr hunbound) (hsame.lacks_iff.mpr hanswer)
      refine hbind.mono (fun _ _ h => ⟨(hsame.grows hwf).trans h.grows, fun s => ?_⟩)
        fun _ _ h => (hsame.grows hwf).trans h
      rw [h.satisfies_iff, hsame.satisfies_iff hwf]

/-- What is left of the pairs to unify, together with the arena, says the same as all pairs
together with the arena at the start. -/
def PairsLeft (arena : Arena) (pairs rest : List (Ty × Ty)) (session : Session) : Prop :=
  arena.Grows session.arena ∧
    ∀ s, (session.arena.Satisfies s ∧ ∀ pair ∈ rest, pair.1.subst s = pair.2.subst s) ↔
      arena.Satisfies s ∧ ∀ pair ∈ pairs, pair.1.subst s = pair.2.subst s

theorem unifyPairs_ends {depth : Nat}
    (hunify : ∀ left right (session : Session), session.arena.WellFormed →
      Ends (unifyWithin depth left right) session
        (fun _ s' => session.arena.Unified left right s'.arena)
        fun _ s' => session.arena.Grows s'.arena)
    (hwf : session.arena.WellFormed) (pairs : List (Ty × Ty)) :
    Ends (pairs.forM fun (p, q) => unifyWithin depth p q) session
      (fun _ s' => session.arena.Grows s'.arena ∧ ∀ s, s'.arena.Satisfies s ↔
        session.arena.Satisfies s ∧ ∀ pair ∈ pairs, pair.1.subst s = pair.2.subst s)
      fun _ s' => session.arena.Grows s'.arena := by
  have hloop : Ends (pairs.forM fun (p, q) => unifyWithin depth p q) session
      (fun _ s' => PairsLeft session.arena pairs [] s')
      fun _ s' => session.arena.Grows s'.arena := by
    refine Ends.forM (PairsLeft session.arena pairs) ?_ pairs session
      ⟨Arena.Grows.refl hwf, fun _ => Iff.rfl⟩
    rintro first rest s₁ ⟨hgrows, hiff⟩
    refine (hunify first.1 first.2 s₁ hgrows.wellFormed).mono ?_ fun _ _ h => hgrows.trans h
    intro _ s₂ h
    refine ⟨hgrows.trans h.grows, fun s => ?_⟩
    rw [← hiff, h.satisfies_iff, List.forall_mem_cons, and_assoc]
  refine hloop.mono ?_ fun _ _ h => h
  rintro _ s' ⟨hgrows, hiff⟩
  refine ⟨hgrows, fun s => ?_⟩
  rw [← hiff]
  simp

/-- Unifying two types either adds the equation between them to the arena or fails, and what the
arena knew it still knows. -/
theorem unifyWithin_ends (hwf : session.arena.WellFormed) (depth : Nat) (left right : Ty) :
    Ends (unifyWithin depth left right) session
      (fun _ s' => session.arena.Unified left right s'.arena)
      fun _ s' => session.arena.Grows s'.arena := by
  induction depth generalizing session left right with
  | zero => exact Ends.throw (Arena.Grows.refl hwf)
  | succ depth ih =>
    have hresolve : ∀ ty (s : Session), session.arena.Same s.arena →
        Ends (query (Arena.resolve ty)) s
          (fun resolved s' => session.arena.Same s'.arena ∧ session.arena.Resolved ty resolved)
          fun _ s' => session.arena.Grows s'.arena := by
      intro ty s hs
      refine query_ends ((Arena.resolve_ends hs.wellFormed ty).mono ?_ ?_)
      · intro _ _ h
        exact ⟨hs.trans h.1, (hs.resolved_iff hwf).mp h.2⟩
      · intro _ _ h
        exact (hs.trans h).grows hwf
    refine Ends.bind (hresolve left session (Arena.Same.refl hwf)) ?_
    rintro left' s₁ ⟨hsame₁, hleft⟩
    refine Ends.bind (hresolve right s₁ hsame₁) ?_
    rintro right' s₂ ⟨hsame₂, hright⟩
    refine Ends.bind ((write_arena _ _ s₂).mono (fun _ _ h => h) fun _ s₃ h => ?_) ?_
    · rw [h]
      exact hsame₂.grows hwf
    intro _ s₃ hs₃
    rw [← hs₃] at hsame₂
    have hwf₃ := hsame₂.wellFormed
    have hleftVar := ((hsame₂.resolved_iff hwf).mpr hleft).unbound
    have hrightVar := ((hsame₂.resolved_iff hwf).mpr hright).unbound
    have hlift : ∀ {x : Unifier Unit},
        Ends x s₃ (fun _ s' => s₃.arena.Unified left' right' s'.arena)
          (fun _ s' => s₃.arena.Grows s'.arena) →
        Ends x s₃ (fun _ s' => session.arena.Unified left right s'.arena)
          fun _ s' => session.arena.Grows s'.arena := fun h =>
      h.mono (fun _ _ h => h.of_resolved hwf hsame₂ hleft hright)
        fun _ _ h => (hsame₂.grows hwf).trans h
    refine hlift ?_
    split
    · rename_i v w
      obtain ⟨hv, hvunbound⟩ := hleftVar v rfl
      by_cases hvw : v = w
      · rw [if_pos hvw]
        exact Ends.throw (Arena.Grows.refl hwf₃)
      · rw [if_neg hvw]
        refine bindVar_ends hwf₃ hv hvunbound fun x hx => ?_
        cases hx
        exact ⟨fun h => hvw h.symm, hrightVar w rfl⟩
    · rename_i v hnotVar
      obtain ⟨hv, hvunbound⟩ := hleftVar v rfl
      exact bindVar_ends hwf₃ hv hvunbound fun x hx => (hnotVar x hx).elim
    · rename_i w hnotVar
      obtain ⟨hw, hwunbound⟩ := hrightVar w rfl
      have hbind := bindVar_ends hwf₃ hw hwunbound fun x hx => (hnotVar x hx).elim
      exact hbind.mono (fun _ _ h => h.symm) fun _ _ h => h
    · rename_i m n
      by_cases hmn : m = n
      · rw [if_pos hmn, hmn]
        exact Ends.pure ⟨Arena.Grows.refl hwf₃, fun s => by simp⟩
      · rw [if_neg hmn]
        exact refuse_ends hwf₃ _
    · rename_i params result params' result'
      by_cases hlength : params.length = params'.length
      · rw [if_neg (not_not_intro hlength)]
        refine Ends.bind (unifyPairs_ends (fun l r s hs => ih hs l r) hwf₃ _) ?_
        rintro _ s₄ ⟨hgrows, hiff⟩
        refine (ih hgrows.wellFormed result result').mono ?_ fun _ _ h => hgrows.trans h
        intro _ s₅ h
        refine ⟨hgrows.trans h.grows, fun s => ?_⟩
        rw [h.satisfies_iff, hiff, Ty.subst_fn_eq_iff hlength, and_assoc]
      · rw [if_pos hlength]
        exact refuse_ends hwf₃ _
    · exact Ends.throw (Arena.Grows.refl hwf₃)
    · exact refuse_ends hwf₃ _

theorem unify_ends (hwf : session.arena.WellFormed) (left right : Ty) :
    Ends (unify left right) session
      (fun _ s' => session.arena.Unified left right s'.arena)
      fun _ s' => session.arena.Grows s'.arena :=
  unifyWithin_ends hwf (session.arena.depthBound [left, right]) left right

end Unifier

/-- Unification computes a most general unifier. After it has succeeded both types are applied to
one and the same type, and the solutions left are exactly those of before that make the types
equal. -/
theorem unify_most_general {session session' : Session} {left right : Ty}
    (hwf : session.arena.WellFormed) (hleft : left.Over session.arena)
    (hright : right.Over session.arena)
    (hok : Unifier.unify left right session = .ok () session') :
    (∃ ty arena₁ arena₂, Arena.apply left session'.arena = .ok ty arena₁ ∧
      Arena.apply right session'.arena = .ok ty arena₂) ∧
    ∀ s : TypeVar → Ty, session'.arena.Satisfies s ↔
      session.arena.Satisfies s ∧ left.subst s = right.subst s := by
  obtain ⟨hgrows, hiff⟩ := (Unifier.unify_ends hwf left right).good_of_eq hok
  have hwf' := hgrows.wellFormed
  have hequal := ((hiff session'.arena.solved).mp hwf'.satisfies_solved).2
  refine ⟨?_, hiff⟩
  obtain ⟨_, arena₁, happly, rfl, _⟩ := (Arena.apply_ends hwf' (hgrows.owned hleft)).exists_ok
  obtain ⟨_, arena₂, happly', rfl, _⟩ := (Arena.apply_ends hwf' (hgrows.owned hright)).exists_ok
  refine ⟨_, arena₁, arena₂, happly, ?_⟩
  rw [happly', hequal]

/-- `(?0) -> ?1` and `(?1) -> b` have `(b) -> b` as their most general common type. -/
theorem unify_most_general_of_functions :
    let session : Session := ⟨Arena.empty.grow 2, Trace.off⟩
    let left : Ty := .fn [.var ⟨0⟩] (.var ⟨1⟩)
    let right : Ty := .fn [.var ⟨1⟩] (.name ⟨[98]⟩)
    session.arena.WellFormed ∧ left.Over session.arena ∧ right.Over session.arena ∧
      ∃ session', Unifier.unify left right session = .ok () session' ∧
        (∃ ty arena₁ arena₂, Arena.apply left session'.arena = .ok ty arena₁ ∧
          Arena.apply right session'.arena = .ok ty arena₂) ∧
        ∀ s : TypeVar → Ty, session'.arena.Satisfies s ↔
          session.arena.Satisfies s ∧ left.subst s = right.subst s := by
  intro session left right
  have hwf : session.arena.WellFormed := Arena.wellFormed_empty.grow 2
  have hleft : left.Over session.arena := by decide
  have hright : right.Over session.arena := by decide
  have hok : Unifier.unify left right session =
      .ok () ⟨⟨#[some (.var ⟨1⟩), some (.name ⟨[98]⟩)]⟩, Trace.off⟩ := by rfl
  exact ⟨hwf, hleft, hright, _, hok, unify_most_general hwf hleft hright hok⟩

end Typeflow
