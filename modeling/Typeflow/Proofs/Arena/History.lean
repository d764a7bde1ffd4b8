import Typeflow.Proofs.Arena.Unification

/-!
Histories of an arena. From the empty arena on, whatever is asked or unified and however each call
ends, the arena is well-formed, and it never forgets: a type that was applied earlier can be
applied again with the same outcome as the type itself, and a bound variable stays bound.
-/

namespace Typeflow

/-- What can be done with an arena. -/
inductive Call where
  | fresh
  | lookup (v : TypeVar)
  | resolve (ty : Ty)
  | apply (ty : Ty)
  | isBound (v : TypeVar)
  | occurs (v : TypeVar) (ty : Ty)
  | unresolvable (ty : Ty)
  | identical (left right : Ty)
  | unify (left right : Ty)

/-- The session that a run leaves behind, however it ends. -/
def Unifier.leaves {α : Type} (action : Unifier α) (session : Session) : Session :=
  match action session with
  | .ok _ session' => session'
  | .error _ session' => session'

def Call.perform : Call → Session → Session
  | .fresh => Unifier.fresh.leaves
  | .lookup v => (Unifier.lookup v).leaves
  | .resolve ty => (Unifier.query (Arena.resolve ty)).leaves
  | .apply ty => (Unifier.query (Arena.apply ty)).leaves
  | .isBound v => (Unifier.query (Arena.isBound v)).leaves
  | .occurs v ty => (Unifier.query (Arena.occurs v ty)).leaves
  | .unresolvable ty => (Unifier.query (Arena.unresolvable ty)).leaves
  | .identical left right => (Unifier.query (Arena.identical left right)).leaves
  | .unify left right => (Unifier.unify left right).leaves

def Session.after (session : Session) (calls : List Call) : Session :=
  calls.foldl (fun session call => call.perform session) session

theorem Unifier.leaves_of_ends {α : Type} {action : Unifier α} {session : Session}
    {holds : Session → Prop}
    (h : Ends action session (fun _ s' => holds s') fun _ s' => holds s') :
    holds (action.leaves session) := by
  unfold Unifier.leaves
  cases haction : action session with
  | ok value session' => exact h.good_of_eq haction
  | error failure session' => exact h.bad_of_eq haction

/-- No call makes a well-formed arena forget anything. -/
theorem Call.grows (call : Call) {session : Session} (hwf : session.arena.WellFormed) :
    session.arena.Grows (call.perform session).arena := by
  have hquery : ∀ {α : Type} {ask : Query α}, Keeps session.arena.Same ask →
      session.arena.Grows ((Unifier.query ask).leaves session).arena := by
    intro α ask hask
    have hsame := Unifier.leaves_of_ends
      (Unifier.query_same hask session (Arena.Same.refl hwf))
    exact hsame.grows hwf
  cases call with
  | fresh =>
    have hfresh : (Unifier.fresh.leaves session).arena = session.arena.grow 1 := by
      unfold Unifier.leaves Unifier.fresh
      rw [Arena.fresh_eq_grow]
    rw [Call.perform, hfresh]
    exact hwf.grows_grow 1
  | lookup v =>
    have hlookup : (Unifier.lookup v).leaves session = session := by
      unfold Unifier.leaves Unifier.lookup
      cases session.arena.lookup v <;> rfl
    rw [Call.perform, hlookup]
    exact Arena.Grows.refl hwf
  | resolve ty => exact hquery (Arena.resolve_keeps ty)
  | apply ty => exact hquery (Arena.apply_keeps ty)
  | isBound v => exact hquery (Arena.isBound_keeps v)
  | occurs v ty => exact hquery (Arena.occurs_keeps v ty)
  | unresolvable ty => exact hquery (Arena.unresolvable_keeps ty)
  | identical left right => exact hquery (Arena.identical_keeps left right)
  | unify left right =>
    exact Unifier.leaves_of_ends ((Unifier.unify_ends hwf left right).mono
      (fun _ _ h => h.grows) fun _ _ h => h)

theorem Session.grows_after {session : Session} (hwf : session.arena.WellFormed)
    (calls : List Call) : session.arena.Grows (session.after calls).arena := by
  induction calls generalizing session with
  | nil => exact Arena.Grows.refl hwf
  | cons call rest ih =>
    have hcall := call.grows hwf
    exact hcall.trans (ih hcall.wellFormed)

namespace Arena

variable {arena arena' : Arena}

/-- An application that was made earlier changes nothing about a later one. -/
theorem Grows.apply_apply (hwf : arena.WellFormed) (h : arena.Grows arena') {ty : Ty}
    (hty : ty.Over arena) :
    ∃ value value' arena₁ arena₂ arena₃, apply ty arena = .ok value arena₁ ∧
      apply value arena' = .ok value' arena₂ ∧ apply ty arena' = .ok value' arena₃ := by
  have hwf' := h.wellFormed
  have hsolution := h.satisfies _ hwf'.satisfies_solved
  obtain ⟨_, arena₁, hearlier, rfl, _⟩ := (apply_ends hwf hty).exists_ok
  obtain ⟨_, arena₂, hagain, rfl, _⟩ :=
    (apply_ends hwf' (h.owned (hwf.over_subst_solved hty))).exists_ok
  obtain ⟨_, arena₃, hlater, rfl, _⟩ := (apply_ends hwf' (h.owned hty)).exists_ok
  refine ⟨_, _, arena₁, arena₂, arena₃, hearlier, hagain, ?_⟩
  rw [hlater, hwf.subst_solved hsolution]

theorem isBound_ends (hwf : arena.WellFormed) {v : TypeVar} (hv : arena.Owns v) :
    Ends (isBound v) arena
      (fun answer _ => answer = true ↔ ∀ w, arena.solved v ≠ .var w) fun _ _ => False := by
  have hvar : ∀ w, Ty.var v = .var w → arena.Owns w := by
    intro w hw
    cases hw
    exact hv
  refine Ends.bind (resolve_total hwf hvar) ?_
  rintro resolved arena₁ ⟨_, hresolved⟩
  have hsolved : arena.solved v = resolved.subst arena.solved := hresolved.subst_eq
  split
  · rename_i w
    refine Ends.pure (iff_of_false (by simp) fun hnot => hnot w ?_)
    rw [hsolved, Ty.subst_var, solved_unbound (hresolved.unbound w rfl).2]
  · rename_i hnot
    refine Ends.pure (iff_of_true rfl fun w hw => ?_)
    rw [hsolved] at hw
    cases resolved with
    | var x => exact hnot x rfl
    | _ => simp at hw

theorem owns_of_isBound {v : TypeVar} {answer : Bool} {arena₁ : Arena}
    (h : isBound v arena = .ok answer arena₁) : arena.Owns v := by
  by_cases hv : arena.Owns v
  · exact hv
  · have hresolve : resolve (.var v) arena = .error (.foreignVariable v) arena := by
      unfold resolve follow
      rw [lookup_of_not_owns hv]
    have hfirst : Ends (resolve (.var v)) arena (fun _ _ => False) fun _ _ => True :=
      Ends.of_eq_error hresolve trivial
    have hfails : Ends (isBound v) arena (fun _ _ => False) fun _ _ => True :=
      Ends.bind hfirst fun _ _ hnone => hnone.elim
    exact (hfails.good_of_eq h).elim

/-- A variable that resolves to something other than a variable goes on doing so. -/
theorem Grows.isBound (hwf : arena.WellFormed) (h : arena.Grows arena') {v : TypeVar}
    {arena₁ : Arena} (hbound : isBound v arena = .ok true arena₁) :
    ∃ arena₂, Arena.isBound v arena' = .ok true arena₂ := by
  have hv := owns_of_isBound hbound
  have hearlier := ((isBound_ends hwf hv).good_of_eq hbound).mp rfl
  have hsolution := h.satisfies _ h.wellFormed.satisfies_solved
  have hlater : ∀ w, arena'.solved v ≠ .var w := by
    intro w hw
    rw [← hwf.subst_solved_var hsolution] at hw
    cases hsolved : arena.solved v with
    | var x => exact hearlier x hsolved
    | _ => simp [hsolved] at hw
  obtain ⟨answer, arena₂, hanswer, hiff⟩ := (isBound_ends h.wellFormed (h.owns hv)).exists_ok
  rw [hiff.mpr hlater] at hanswer
  exact ⟨arena₂, hanswer⟩

end Arena

/-- After any calls on a new arena, with any types and however each of them ended, the arena is
well-formed. Between any two moments it only gains information: applying the later arena to what
the earlier one gave for a type is the same as applying it to the type, and a variable that had an
entry, or resolved to something other than a variable, still does. -/
theorem history_only_gains (trace : Trace) (before after : List Call) :
    let earlier := (Session.mk Arena.empty trace).after before
    let later := earlier.after after
    later.arena.WellFormed ∧
    (∀ ty, ty.Over earlier.arena →
      ∃ value value' arena₁ arena₂ arena₃, Arena.apply ty earlier.arena = .ok value arena₁ ∧
        Arena.apply value later.arena = .ok value' arena₂ ∧
        Arena.apply ty later.arena = .ok value' arena₃) ∧
    (∀ v ty, earlier.arena.lookup v = .ok (some ty) →
      ∃ ty', later.arena.lookup v = .ok (some ty')) ∧
    ∀ v arena₁, Arena.isBound v earlier.arena = .ok true arena₁ →
      ∃ arena₂, Arena.isBound v later.arena = .ok true arena₂ := by
  intro earlier later
  have hwf : earlier.arena.WellFormed :=
    (Session.grows_after Arena.wellFormed_empty before).wellFormed
  have hgrows : earlier.arena.Grows later.arena := Session.grows_after hwf after
  refine ⟨hgrows.wellFormed, fun ty hty => hgrows.apply_apply hwf hty, ?_,
    fun v _ hbound => hgrows.isBound hwf hbound⟩
  intro v ty hlookup
  obtain ⟨hv, hentry⟩ := Arena.owns_of_lookup hlookup
  have hv' := hgrows.owns hv
  rw [Arena.lookup_of_owns hv']
  cases hlater : later.arena.entry v with
  | some ty' => exact ⟨ty', rfl⟩
  | none =>
    rw [hgrows.bound v hlater] at hentry
    cases hentry

/-- First `?0` is bound to `(?1) -> b`. The later call fails half-way: it binds `?1` to `c` and
then meets an empty place. -/
theorem history_only_gains_after_failure :
    let before : List Call := [.fresh, .fresh, .unify (.var ⟨0⟩) (.fn [.var ⟨1⟩] (.name ⟨[98]⟩))]
    let after : List Call := [.unify (.fn [.var ⟨1⟩] .absent) (.fn [.name ⟨[99]⟩] .absent)]
    let earlier := (Session.mk Arena.empty Trace.off).after before
    let later := earlier.after after
    (Ty.var ⟨0⟩).Over earlier.arena ∧
      earlier.arena.lookup ⟨0⟩ = .ok (some (.fn [.var ⟨1⟩] (.name ⟨[98]⟩))) ∧
      (∃ arena₁, Arena.isBound ⟨0⟩ earlier.arena = .ok true arena₁) ∧
      later.arena.lookup ⟨1⟩ = .ok (some (.name ⟨[99]⟩)) ∧
      later.arena.WellFormed ∧
      (∃ value value' arena₁ arena₂ arena₃,
        Arena.apply (.var ⟨0⟩) earlier.arena = .ok value arena₁ ∧
        Arena.apply value later.arena = .ok value' arena₂ ∧
        Arena.apply (.var ⟨0⟩) later.arena = .ok value' arena₃) ∧
      (∃ ty', later.arena.lookup ⟨0⟩ = .ok (some ty')) ∧
      ∃ arena₂, Arena.isBound ⟨0⟩ later.arena = .ok true arena₂ := by
  intro before after earlier later
  have hover : (Ty.var ⟨0⟩).Over earlier.arena := by decide
  have hlookup : earlier.arena.lookup ⟨0⟩ = .ok (some (.fn [.var ⟨1⟩] (.name ⟨[98]⟩))) := by rfl
  have hbound : ∃ arena₁, Arena.isBound ⟨0⟩ earlier.arena = .ok true arena₁ := ⟨_, by rfl⟩
  have hlater : later.arena.lookup ⟨1⟩ = .ok (some (.name ⟨[99]⟩)) := by rfl
  obtain ⟨hwf, happly, hentry, hresolves⟩ := history_only_gains Trace.off before after
  obtain ⟨arena₁, hbound₁⟩ := hbound
  exact ⟨hover, hlookup, ⟨arena₁, hbound₁⟩, hlater, hwf, happly _ hover, hentry _ _ hlookup,
    hresolves _ _ hbound₁⟩

end Typeflow
