import Typeflow.Proofs.Arena.Comparison
import Typeflow.Proofs.Arena.Rejection
import Typeflow.Proofs.Descent

/-!
Everything that can be asked about types over a well-formed arena has an answer, and unifying them
has an end. Unification succeeds or refuses the types with one of three kinds of errors; it never
binds a variable twice and meets none of the faults of the engine. The limits on the depth of the
descents play no part in this: from some depth on every descent is the same.
-/

namespace Typeflow

namespace Arena

variable {arena : Arena} {ty left right : Ty}

theorem not_agree_of_form (hleft : ∀ v, left = .var v → arena.entry v = none)
    (hright : ∀ v, right = .var v → arena.entry v = none) (hpresent : left ≠ .absent)
    (hvars : ∀ v w, left = .var v → right ≠ .var w)
    (hnames : ∀ m n, left = .name m → right ≠ .name n)
    (hfns : ∀ params result params' result', left = .fn params result →
      right ≠ .fn params' result') :
    ¬ Ty.Agree (left.subst arena.solved) (right.subst arena.solved) := by
  intro hagree
  obtain ⟨heq, hmark⟩ := hagree
  have hvar : ∀ {ty : Ty}, (∀ v, ty = .var v → arena.entry v = none) → ∀ v, ty = .var v →
      ty.subst arena.solved = .var v := by
    intro ty hty v hv
    rw [hv, Ty.subst_var, solved_unbound (hty v hv)]
  cases left with
  | unresolvable => cases hmark
  | absent => exact hpresent rfl
  | var v =>
    rw [hvar hleft v rfl] at heq
    cases right with
    | var w => exact hvars v w rfl rfl
    | _ => simp at heq
  | name m =>
    cases right with
    | name n => exact hnames m n rfl rfl
    | var w =>
      rw [hvar hright w rfl] at heq
      simp at heq
    | _ => simp at heq
  | fn params result =>
    cases right with
    | fn params' result' => exact hfns params result params' result' rfl rfl
    | var w =>
      rw [hvar hright w rfl] at heq
      simp at heq
    | _ => simp at heq

/-- Down to this depth, types over a well-formed arena are compared exactly. -/
def ComparesWithin (depth : Nat) : Prop :=
  ∀ (arena : Arena) (left right : Ty), arena.WellFormed → left.Over arena → right.Over arena →
    left.nilFree = true → right.nilFree = true → (left.subst arena.solved).height ≤ depth →
    Ends (identicalWithin depth left right) arena
      (fun answer arena' => (answer = true ↔
        Ty.Agree (left.subst arena.solved) (right.subst arena.solved)) ∧ arena.Same arena')
      fun _ _ => False

theorem ComparesWithin.part {depth : Nat} (h : ComparesWithin depth) (hleft : left.Over arena)
    (hright : right.Over arena) (hleftNil : left.nilFree = true)
    (hrightNil : right.nilFree = true) (hheight : (left.subst arena.solved).height ≤ depth)
    (arena₁ : Arena)
    (hsame : arena.Same arena₁) :
    Ends (identicalWithin depth left right) arena₁ (fun answer arena' =>
      (if answer then Ty.Agree (left.subst arena.solved) (right.subst arena.solved)
        else ¬ Ty.Agree (left.subst arena.solved) (right.subst arena.solved)) ∧
        arena.Same arena') fun _ _ => False := by
  have hend := h arena₁ left right hsame.wellFormed (hsame.over_iff.mpr hleft)
    (hsame.over_iff.mpr hright) hleftNil hrightNil (by rwa [hsame.solved_eq])
  rw [hsame.solved_eq] at hend
  refine hend.mono (fun answer arena' hanswer => ⟨?_, hsame.trans hanswer.2⟩) fun _ _ h => h
  cases answer with
  | true => exact hanswer.1.mp rfl
  | false => exact fun hagree => Bool.false_ne_true (hanswer.1.mpr hagree)

/-- Function types are compared parameter by parameter, and then by their results. -/
theorem ComparesWithin.parts {depth : Nat} {params params' : List Ty} {result result' : Ty}
    (h : ComparesWithin depth) (hlength : params.length = params'.length)
    (hover : (Ty.fn params result).Over arena) (hover' : (Ty.fn params' result').Over arena)
    (hnil : (Ty.fn params result).nilFree = true) (hnil' : (Ty.fn params' result').nilFree = true)
    (hheight : ((Ty.fn params result).subst arena.solved).height ≤ depth + 1) (arena₁ : Arena)
    (hsame : arena.Same arena₁) :
    Ends (do
        if ← (params.zip params').allM fun (p, q) => identicalWithin depth p q then
          identicalWithin depth result result'
        else return false) arena₁
      (fun answer arena' => (answer = true ↔ Ty.Agree ((Ty.fn params result).subst arena.solved)
        ((Ty.fn params' result').subst arena.solved)) ∧ arena.Same arena')
      fun _ _ => False := by
  obtain ⟨hnils, hnilResult⟩ := Ty.nilFree_fn.mp hnil
  obtain ⟨hnils', hnilResult'⟩ := Ty.nilFree_fn.mp hnil'
  rw [Ty.subst_fn, Ty.height_fn_le_iff] at hheight
  have hpairs := Ends.allM (params.zip params') (fun pair hpair =>
    h.part
      (fun v hv => hover v (Ty.mem_vars_fn.mpr (Or.inl ⟨_, (List.of_mem_zip hpair).1, hv⟩)))
      (fun v hv => hover' v (Ty.mem_vars_fn.mpr (Or.inl ⟨_, (List.of_mem_zip hpair).2, hv⟩)))
      (hnils _ (List.of_mem_zip hpair).1) (hnils' _ (List.of_mem_zip hpair).2)
      (hheight.1 _ (List.mem_map_of_mem (List.of_mem_zip hpair).1))) arena₁ hsame
  refine Ends.bind hpairs ?_
  intro answer arena₂ hparams
  obtain ⟨hanswer, hsame₂⟩ := hparams
  rw [Ty.subst_fn, Ty.subst_fn, Ty.agree_fn (by rw [List.length_map, List.length_map, hlength]),
    List.zip_map]
  simp only [List.forall_mem_map, Prod.map_fst, Prod.map_snd]
  cases answer with
  | true =>
    refine (h.part (fun v hv => hover v (Ty.mem_vars_fn.mpr (Or.inr hv)))
      (fun v hv => hover' v (Ty.mem_vars_fn.mpr (Or.inr hv))) hnilResult hnilResult'
      hheight.2 arena₂ hsame₂).mono ?_ fun _ _ h => h
    intro answer arena₃ hlast
    obtain ⟨hresult, hsame₃⟩ := hlast
    refine ⟨?_, hsame₃⟩
    cases answer with
    | true => exact iff_of_true rfl ⟨hanswer, hresult⟩
    | false => exact iff_of_false Bool.false_ne_true fun hagree => hresult hagree.2
  | false =>
    obtain ⟨pair, hpair, hdiffer⟩ := hanswer
    exact Ends.pure ⟨iff_of_false Bool.false_ne_true fun hagree =>
      hdiffer (hagree.1 pair hpair), hsame₂⟩

theorem identicalWithin_total (depth : Nat) : ComparesWithin depth := by
  induction depth with
  | zero =>
    intro arena left right _ _ _ _ _ hheight
    have hpos := (left.subst arena.solved).height_pos
    omega
  | succ depth ih =>
    intro arena left right hwf hleft hright hleftNil hrightNil hheight
    refine Ends.bind (resolve_over hwf hleft) ?_
    intro left' arena₁ h
    obtain ⟨hresolved, hsame₁⟩ := h
    refine Ends.bind (resolve_over hsame₁.wellFormed (hsame₁.over_iff.mpr hright)) ?_
    intro right' arena₂ h
    obtain ⟨hresolved', hsame₂⟩ := h
    rw [hsame₁.resolved_iff hwf] at hresolved'
    have hsame := hsame₁.trans hsame₂
    have hnil := hresolved.nilFree_eq.trans hleftNil
    have hunbound : ∀ v, left' = .var v → arena.entry v = none := fun v hv =>
      (hresolved.unbound v hv).2
    have hunbound' : ∀ v, right' = .var v → arena.entry v = none := fun v hv =>
      (hresolved'.unbound v hv).2
    rw [hresolved.subst_eq] at hheight ⊢
    rw [hresolved'.subst_eq]
    split
    · rename_i v w
      refine Ends.pure ⟨?_, hsame⟩
      rw [Ty.subst_var, Ty.subst_var, solved_unbound (hunbound v rfl),
        solved_unbound (hunbound' w rfl)]
      simp [Ty.Agree, Ty.mentionsUnresolvable]
    · exact Ends.pure ⟨by simp [Ty.Agree, Ty.mentionsUnresolvable], hsame⟩
    · rename_i params result params' result'
      by_cases hlength : params.length = params'.length
      · rw [if_neg (not_not_intro hlength)]
        exact ih.parts hlength (hresolved.over_iff.mpr hleft)
          (hresolved'.over_iff.mpr hright) hnil
          (hresolved'.nilFree_eq.trans hrightNil) hheight arena₂ hsame
      · rw [if_pos hlength]
        refine Ends.pure ⟨iff_of_false Bool.false_ne_true fun hagree => hlength ?_, hsame⟩
        rw [Ty.subst_fn, Ty.subst_fn] at hagree
        have hlengths := congrArg List.length (Ty.fn.inj hagree.1).1
        rwa [List.length_map, List.length_map] at hlengths
    · cases hnil
    · rename_i hvars hnames hfns
      exact Ends.pure ⟨iff_of_false Bool.false_ne_true (not_agree_of_form hunbound hunbound'
        (Ty.ne_absent_of_nilFree hnil) hvars hnames hfns), hsame⟩

theorem identical_total (hwf : arena.WellFormed) (hleft : left.Over arena)
    (hright : right.Over arena) (hleftNil : left.nilFree = true)
    (hrightNil : right.nilFree = true) :
    Ends (identical left right) arena
      (fun answer arena' => (answer = true ↔
        Ty.Agree (left.subst arena.solved) (right.subst arena.solved)) ∧ arena.Same arena')
      fun _ _ => False :=
  identicalWithin_total _ arena left right hwf hleft hright hleftNil hrightNil
    (hwf.height_subst_solved_le List.mem_cons_self hleft)

theorem applyWithin_deepens (depth : Nat) (ty : Ty) :
    Deepens .endlessType (applyWithin depth ty) (applyWithin (depth + 1) ty) := by
  induction depth generalizing ty with
  | zero => exact Deepens.giveUp
  | succ depth ih =>
    refine Deepens.bind (Deepens.refl _) fun resolved => ?_
    cases resolved with
    | fn params result =>
      exact Deepens.bind (Deepens.mapM params ih) fun _ =>
        Deepens.bind (ih result) fun _ => Deepens.refl _
    | _ => exact Deepens.refl _

theorem IsSearch.deepens {ask : Nat → Ty → Query Bool} {test : Ty → Bool}
    (hask : IsSearch ask test) (hzero : ∀ ty, ask 0 ty = throw .endlessType)
    (depth : Nat) (ty : Ty) :
    Deepens .endlessType (ask depth ty) (ask (depth + 1) ty) := by
  induction depth generalizing ty with
  | zero =>
    rw [hzero]
    exact Deepens.giveUp
  | succ depth ih =>
    rw [hask depth, hask (depth + 1)]
    refine Deepens.bind (Deepens.refl _) fun resolved => ?_
    cases resolved with
    | fn params result =>
      refine Deepens.bind (Deepens.anyM params ih) fun answer => ?_
      cases answer with
      | true => exact Deepens.refl _
      | false => exact ih result
    | _ => exact Deepens.refl _

theorem identicalWithin_deepens (depth : Nat) (left right : Ty) :
    Deepens .endlessType (identicalWithin depth left right)
      (identicalWithin (depth + 1) left right) := by
  induction depth generalizing left right with
  | zero => exact Deepens.giveUp
  | succ depth ih =>
    refine Deepens.bind (Deepens.refl _) fun left => Deepens.bind (Deepens.refl _) fun right => ?_
    split
    · exact Deepens.refl _
    · exact Deepens.refl _
    · rename_i params result params' result'
      by_cases hlength : params.length ≠ params'.length
      · rw [if_pos hlength, if_pos hlength]
        exact Deepens.refl _
      · rw [if_neg hlength, if_neg hlength]
        refine Deepens.bind (Deepens.allM _ fun pair => ih pair.1 pair.2) fun answer => ?_
        cases answer with
        | true => exact ih result result'
        | false => exact Deepens.refl _
    · exact Deepens.refl _
    · exact Deepens.refl _

/-- The question is answered, and from some depth on its descent gives this answer, whatever the
limit is. -/
def Answered {α : Type} (ask : Query α) (descend : Nat → Query α) (arena : Arena) : Prop :=
  ∃ answer arena', ask arena = .ok answer arena' ∧ Terminates descend arena (.ok answer arena')

/-- A question that cannot fail is answered if more depth only helps its descent. -/
theorem answered_of_ends {α : Type} {descend : Nat → Query α} {depth : Nat}
    {good : α → Arena → Prop} (hends : Ends (descend depth) arena good fun _ _ => False)
    (hdeepens : ∀ depth, Deepens .endlessType (descend depth) (descend (depth + 1))) :
    Answered (descend depth) descend arena := by
  obtain ⟨answer, arena', hask, _⟩ := hends.exists_ok
  refine ⟨answer, arena', hask, ?_⟩
  have hstop : ∀ arena'', descend depth arena ≠ .error .endlessType arena'' := by
    intro arena'' h
    rw [hask] at h
    cases h
  rw [← hask]
  exact terminates_of_deepens hdeepens hstop

end Arena

namespace Unifier

variable {session : Session} {left right : Ty}

theorem unifyWithin_deepens (depth : Nat) (left right : Ty) :
    Deepens (.fault .endlessType) (unifyWithin depth left right)
      (unifyWithin (depth + 1) left right) := by
  induction depth generalizing left right with
  | zero => exact Deepens.giveUp
  | succ depth ih =>
    refine Deepens.bind (Deepens.refl _) fun left => Deepens.bind (Deepens.refl _) fun right =>
      Deepens.bind (Deepens.refl _) fun _ => ?_
    split
    · exact Deepens.refl _
    · exact Deepens.refl _
    · exact Deepens.refl _
    · exact Deepens.refl _
    · rename_i params result params' result'
      by_cases hlength : params.length ≠ params'.length
      · rw [if_pos hlength, if_pos hlength]
        exact Deepens.refl _
      · rw [if_neg hlength, if_neg hlength]
        exact Deepens.bind (Deepens.forM _ fun pair => ih pair.1 pair.2) fun _ =>
          ih result result'
    · exact Deepens.refl _
    · exact Deepens.refl _

/-- A refusal is an error of one of three kinds. The trace is what else can fail. -/
theorem kind_of_rejection {failure : Failure} {s' : Session}
    (h : session.Rejection left right failure s') :
    (∃ error : InferenceError, failure = .error error ∧ error.kind ∈ [.mismatch, .arity, .self]) ∨
      failure = .fault .traceFull ∧ ¬ session.trace.Accepting := by
  cases h with
  | clash hkind =>
    refine Or.inl ⟨_, rfl, ?_⟩
    rcases hkind with hkind | hkind | ⟨v, ty, rfl⟩
    · simp [hkind]
    · simp [hkind]
    · simp [InferenceError.kind]
  | self => exact Or.inl ⟨_, rfl, by simp [InferenceError.kind]⟩
  | traceFull hfull => exact Or.inr ⟨rfl, hfull⟩

theorem unify_fails (hwf : session.arena.WellFormed) (hleft : left.Over session.arena)
    (hright : right.Over session.arena) (hleftNil : left.nilFree = true)
    (hrightNil : right.nilFree = true) :
    Ends (unify left right) session (fun _ _ => True) fun failure _ =>
      (∃ error : InferenceError, failure = .error error ∧
        error.kind ∈ [.mismatch, .arity, .self]) ∨
      failure = .fault .traceFull ∧ ¬ session.trace.Accepting :=
  (unify_rejects hwf hleft hright hleftNil hrightNil).mono (fun _ _ _ => trivial)
    fun _ _ h => kind_of_rejection h

end Unifier

/-- The engine is total on well-formed input. For types over the variables of a well-formed arena
and without empty places, all questions are answered. Unification ends, and if it fails it does so
with a mismatch, with a wrong number of parameters or with a variable that meets itself, unless
the trace cannot take another line. -/
theorem unification_is_total {session : Session} {left right : Ty}
    (hwf : session.arena.WellFormed) (hleft : left.Over session.arena)
    (hright : right.Over session.arena) (hleftNil : left.nilFree = true)
    (hrightNil : right.nilFree = true) :
    (∀ ty ∈ [left, right],
      Arena.Answered (Arena.apply ty) (Arena.applyWithin · ty) session.arena ∧
      (∀ v, Arena.Answered (Arena.occurs v ty) (Arena.occursWithin v · ty) session.arena) ∧
      Arena.Answered (Arena.unresolvable ty) (Arena.unresolvableWithin · ty) session.arena) ∧
    Arena.Answered (Arena.identical left right) (Arena.identicalWithin · left right)
      session.arena ∧
    Terminates (Unifier.unifyWithin · left right) session (Unifier.unify left right session) ∧
    Ends (Unifier.unify left right) session (fun _ _ => True) fun failure _ =>
      (∃ error : InferenceError, failure = .error error ∧
        error.kind ∈ [.mismatch, .arity, .self]) ∨
      failure = .fault .traceFull ∧ ¬ session.trace.Accepting := by
  have hends := Unifier.unify_fails hwf hleft hright hleftNil hrightNil
  refine ⟨?_, ?_, ?_, hends⟩
  · intro ty hty
    have hover : ty.Over session.arena := by
      rcases List.mem_pair.mp hty with rfl | rfl
      · exact hleft
      · exact hright
    have hnil : ty.nilFree = true := by
      rcases List.mem_pair.mp hty with rfl | rfl
      · exact hleftNil
      · exact hrightNil
    refine ⟨?_, fun v => ?_, ?_⟩
    · exact Arena.answered_of_ends (Arena.apply_ends hwf hover) fun depth =>
        Arena.applyWithin_deepens depth ty
    · exact Arena.answered_of_ends (Arena.occurs_total hwf hover hnil v) fun depth =>
        (Arena.isSearch_occursWithin v).deepens (fun _ => rfl) depth ty
    · exact Arena.answered_of_ends (Arena.unresolvable_total hwf hover hnil) fun depth =>
        Arena.isSearch_unresolvableWithin.deepens (fun _ => rfl) depth ty
  · exact Arena.answered_of_ends (Arena.identical_total hwf hleft hright hleftNil hrightNil)
      fun depth => Arena.identicalWithin_deepens depth left right
  · refine terminates_of_deepens (fun depth => Unifier.unifyWithin_deepens depth left right) ?_
    intro s' hstop
    rcases hends.bad_of_eq hstop with ⟨error, herror, _⟩ | ⟨hfull, _⟩
    · cases herror
    · cases hfull

/-- Where `?0` is bound to `(?1) -> b`, unifying it with `((?0) -> b) -> b` would make a type that
reaches itself. All questions about the two are answered, and the occurs check ends the
unification. -/
theorem unification_is_total_at_endless_type :
    let b : Ty := .name ⟨[98]⟩
    let left : Ty := .var ⟨0⟩
    let right : Ty := .fn [.fn [.var ⟨0⟩] b] b
    let session : Session := ⟨⟨#[some (.fn [.var ⟨1⟩] b), none]⟩, Trace.off⟩
    session.arena.WellFormed ∧ left.Over session.arena ∧ right.Over session.arena ∧
      Arena.Answered (Arena.apply right) (Arena.applyWithin · right) session.arena ∧
      Arena.Answered (Arena.identical left right) (Arena.identicalWithin · left right)
        session.arena ∧
      Terminates (Unifier.unifyWithin · left right) session (Unifier.unify left right session) ∧
      ∃ error session', Unifier.unify left right session = .error (.error error) session' ∧
        error.kind = .self := by
  intro b left right session
  let start : Session := ⟨Arena.empty.grow 2, Trace.off⟩
  have hbind : Unifier.unify left (.fn [.var ⟨1⟩] b) start = .ok () session := by rfl
  have hwf : session.arena.WellFormed :=
    ((Unifier.unify_ends (Arena.wellFormed_empty.grow 2) _ _).good_of_eq hbind).grows.wellFormed
  have hleft : left.Over session.arena := by decide
  have hright : right.Over session.arena := by decide
  obtain ⟨hanswered, hidentical, hterminates, _⟩ :=
    unification_is_total hwf hleft hright (by decide) (by decide)
  exact ⟨hwf, hleft, hright, (hanswered right (by simp)).1, hidentical, hterminates, _, _, rfl,
    rfl⟩

end Typeflow
