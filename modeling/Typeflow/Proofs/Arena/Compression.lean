import Typeflow.Proofs.Arena.Mirror
import Typeflow.Proofs.Arena.Reference
import Typeflow.Proofs.Lockstep

/-!
Path compression cannot be observed. The engine and the reference engine, which never rewrites an
entry, soon have different arenas; but from every variable the paths in both lead to the same end,
and this is all that an answer depends on.
-/

namespace Typeflow

namespace Arena

variable {arena arena' : Arena}

/-- Both ways of resolving find the same type, and the one that compresses keeps the arena in
agreement with the other. -/
theorem Mirrors.resolve_inStep (h : arena.Mirrors arena') (ty : Ty) :
    InStep (resolve ty) (Resolver.following ty) arena arena'
      (fun found a b => (a.Mirrors arena' ∧ b = arena') ∧
        ∀ v, found = .var v → arena'.Owns v ∧ arena'.entry v = none)
      fun a b => a.Mirrors arena' ∧ b = arena' := by
  by_cases hvar : ∃ v, ty = .var v
  · obtain ⟨v, rfl⟩ := hvar
    by_cases hv : arena.Owns v
    · obtain ⟨target, htarget, ⟨passed, hpath⟩, ⟨passed', hpath'⟩⟩ := h.leads v hv
      have hresolve : resolve (.var v) arena = .ok target (arena.compress passed target) := by
        unfold resolve
        rw [follow_of_follows hpath hpath.length_le]
      have hfollow : Resolver.following (.var v) arena' = .ok target arena' := by
        unfold Resolver.following
        rw [follow_of_follows hpath' hpath'.length_le]
      exact .ok hresolve hfollow
        ⟨⟨h.compress hpath htarget, rfl⟩, fun w hw => hpath'.unbound hw⟩
    · have hv' : ¬ arena'.Owns v := fun hv' => hv ((h.owns_iff v).mpr hv')
      have hresolve : resolve (.var v) arena = .error (.foreignVariable v) arena := by
        unfold resolve follow
        rw [lookup_of_not_owns hv]
      have hfollow : Resolver.following (.var v) arena' = .error (.foreignVariable v) arena' := by
        unfold Resolver.following follow
        rw [lookup_of_not_owns hv']
      exact .error hresolve hfollow ⟨h, rfl⟩
  · have hne : ∀ w, ty ≠ .var w := fun w hw => hvar ⟨w, hw⟩
    have hfollow : Resolver.following ty arena' = .ok ty arena' := by
      unfold Resolver.following
      rw [follow_of_ne_var arena' _ hne]
    exact .ok (resolve_of_ne_var arena hne) hfollow ⟨⟨h, rfl⟩, fun w hw => (hne w hw).elim⟩

end Arena

namespace Resolver

/-! Resolvers that are in step answer every question alike. -/

section Questions

variable {related : Arena → Arena → Prop} {resolve resolve' : Resolver}
  (hresolve : ∀ ty, Lockstep related (resolve ty) (resolve' ty))

include hresolve

theorem isBound_lockstep (v : TypeVar) :
    Lockstep related (resolve.isBound v) (resolve'.isBound v) := by
  refine Lockstep.bind (hresolve (.var v)) fun found => ?_
  cases found <;> exact Lockstep.pure _

theorem applyWithin_lockstep (depth : Nat) (ty : Ty) :
    Lockstep related (resolve.applyWithin depth ty) (resolve'.applyWithin depth ty) := by
  induction depth generalizing ty with
  | zero => exact Lockstep.throw _
  | succ depth ih =>
    rw [applyWithin, applyWithin]
    refine Lockstep.bind (hresolve ty) fun found => ?_
    cases found with
    | fn params result =>
      exact Lockstep.bind (Lockstep.mapM params ih) fun _ =>
        Lockstep.bind (ih result) fun _ => Lockstep.pure _
    | _ => exact Lockstep.pure _

theorem occursWithin_lockstep (v : TypeVar) (depth : Nat) (ty : Ty) :
    Lockstep related (resolve.occursWithin v depth ty) (resolve'.occursWithin v depth ty) := by
  induction depth generalizing ty with
  | zero => exact Lockstep.throw _
  | succ depth ih =>
    rw [occursWithin, occursWithin]
    refine Lockstep.bind (hresolve ty) fun found => ?_
    cases found with
    | fn params result =>
      exact Lockstep.bind (Lockstep.anyM params ih) fun _ =>
        Lockstep.ite (Lockstep.pure _) (ih result)
    | absent => exact Lockstep.throw _
    | _ => exact Lockstep.pure _

theorem unresolvableWithin_lockstep (depth : Nat) (ty : Ty) :
    Lockstep related (resolve.unresolvableWithin depth ty)
      (resolve'.unresolvableWithin depth ty) := by
  induction depth generalizing ty with
  | zero => exact Lockstep.throw _
  | succ depth ih =>
    rw [unresolvableWithin, unresolvableWithin]
    refine Lockstep.bind (hresolve ty) fun found => ?_
    cases found with
    | fn params result =>
      exact Lockstep.bind (Lockstep.anyM params ih) fun _ =>
        Lockstep.ite (Lockstep.pure _) (ih result)
    | absent => exact Lockstep.throw _
    | _ => exact Lockstep.pure _

theorem identicalWithin_lockstep (depth : Nat) (left right : Ty) :
    Lockstep related (resolve.identicalWithin depth left right)
      (resolve'.identicalWithin depth left right) := by
  induction depth generalizing left right with
  | zero => exact Lockstep.throw _
  | succ depth ih =>
    rw [identicalWithin, identicalWithin]
    refine Lockstep.bind (hresolve left) fun left => ?_
    refine Lockstep.bind (hresolve right) fun right => ?_
    split
    · exact Lockstep.pure _
    · exact Lockstep.pure _
    · refine Lockstep.ite (Lockstep.pure _) ?_
      exact Lockstep.bind (Lockstep.allM _ fun pair => ih pair.1 pair.2) fun _ =>
        Lockstep.ite (ih _ _) (Lockstep.pure _)
    · exact Lockstep.throw _
    · exact Lockstep.pure _

variable (hdepth : ∀ arena arena' types, related arena arena' → types ≠ [] →
    arena.depthBound types = arena'.depthBound types)

include hdepth

theorem apply_lockstep (ty : Ty) : Lockstep related (resolve.apply ty) (resolve'.apply ty) :=
  Lockstep.bounded (fun depth => applyWithin_lockstep hresolve depth ty)
    fun arena arena' h => hdepth arena arena' [ty] h (by simp)

theorem occurs_lockstep (v : TypeVar) (ty : Ty) :
    Lockstep related (resolve.occurs v ty) (resolve'.occurs v ty) :=
  Lockstep.bounded (fun depth => occursWithin_lockstep hresolve v depth ty)
    fun arena arena' h => hdepth arena arena' [ty] h (by simp)

theorem unresolvable_lockstep (ty : Ty) :
    Lockstep related (resolve.unresolvable ty) (resolve'.unresolvable ty) :=
  Lockstep.bounded (fun depth => unresolvableWithin_lockstep hresolve depth ty)
    fun arena arena' h => hdepth arena arena' [ty] h (by simp)

theorem identical_lockstep (left right : Ty) :
    Lockstep related (resolve.identical left right) (resolve'.identical left right) :=
  Lockstep.bounded (fun depth => identicalWithin_lockstep hresolve depth left right)
    fun arena arena' h => hdepth arena arena' [left, right] h (by simp)

end Questions

end Resolver

/-- Two sessions with the same trace, the second about the arena `reference`, which the arena of
the first mirrors. -/
structure Twins (reference : Arena) (session session' : Session) : Prop where
  mirrors : session.arena.Mirrors reference
  arena_eq : session'.arena = reference
  trace_eq : session.trace = session'.trace

/-- Sessions of the engine and of the reference engine after the same requests. -/
def Paired (session session' : Session) : Prop := ∃ reference, Twins reference session session'

namespace Twins

variable {α : Type} {reference : Arena} {s t : Session}

theorem paired (h : Twins reference s t) : Paired s t := ⟨reference, h⟩

/-- A question changes nothing about the reference arena. -/
abbrev Asked (reference arena arena' : Arena) : Prop :=
  arena.Mirrors reference ∧ arena' = reference

theorem resolve_lockstep (ty : Ty) :
    Lockstep (Asked reference) (Arena.resolve ty) (Resolver.following ty) := by
  intro arena arena' h
  obtain ⟨hmirrors, rfl⟩ := h
  exact (hmirrors.resolve_inStep ty).mono (fun _ _ _ h => h.1) fun _ _ h => h

theorem depthBound_eq (arena arena' : Arena) (types : List Ty) (h : Asked reference arena arena')
    (htypes : types ≠ []) : arena.depthBound types = arena'.depthBound types := by
  obtain ⟨hmirrors, rfl⟩ := h
  exact hmirrors.depthBound_eq htypes

theorem query_inStep {ask ask' : Query α} (holds : α → Prop) (h : Twins reference s t)
    (hask : InStep ask ask' s.arena t.arena
      (fun value arena arena' => Asked reference arena arena' ∧ holds value) (Asked reference)) :
    InStep (Unifier.query ask) (Unifier.query ask') s t
      (fun value s' t' => Twins reference s' t' ∧ holds value) (Twins reference) := by
  cases hask with
  | @ok value arena arena' hx hy hgood =>
    have hs : Unifier.query ask s = .ok value { s with arena } := by
      unfold Unifier.query
      rw [hx]
    have ht : Unifier.query ask' t = .ok value { t with arena := arena' } := by
      unfold Unifier.query
      rw [hy]
    exact .ok hs ht ⟨⟨hgood.1.1, hgood.1.2, h.trace_eq⟩, hgood.2⟩
  | @error fault arena arena' hx hy hbad =>
    have hs : Unifier.query ask s = .error (.fault fault) { s with arena } := by
      unfold Unifier.query
      rw [hx]
    have ht : Unifier.query ask' t = .error (.fault fault) { t with arena := arena' } := by
      unfold Unifier.query
      rw [hy]
    exact .error hs ht ⟨hbad.1, hbad.2, h.trace_eq⟩

theorem query_lockstep {ask ask' : Query α} (hask : Lockstep (Asked reference) ask ask') :
    Lockstep (Twins reference) (Unifier.query ask) (Unifier.query ask') := by
  intro s t h
  have hstep := hask s.arena t.arena ⟨h.mirrors, h.arena_eq⟩
  have hquery := query_inStep (fun _ => True) h
    (hstep.mono (fun _ _ _ h => ⟨h, trivial⟩) fun _ _ h => h)
  exact hquery.mono (fun _ _ _ h => h.1) fun _ _ h => h

theorem write_lockstep (channel : Channel) (line : Text) :
    Lockstep (Twins reference) (Unifier.write channel line) (Unifier.write channel line) := by
  intro s t h
  cases hwrite : Trace.write channel line s.trace with
  | ok value trace =>
    have hs : Unifier.write channel line s = .ok () { s with trace } := by
      unfold Unifier.write
      rw [hwrite]
    have ht : Unifier.write channel line t = .ok () { t with trace } := by
      unfold Unifier.write
      rw [← h.trace_eq, hwrite]
    exact .ok hs ht ⟨h.mirrors, h.arena_eq, rfl⟩
  | error failure trace =>
    have hs : Unifier.write channel line s = .error failure { s with trace } := by
      unfold Unifier.write
      rw [hwrite]
    have ht : Unifier.write channel line t = .error failure { t with trace } := by
      unfold Unifier.write
      rw [← h.trace_eq, hwrite]
    exact .error hs ht ⟨h.mirrors, h.arena_eq, rfl⟩

theorem apply_lockstep (ty : Ty) :
    Lockstep (Twins reference) (Unifier.query (Resolver.apply Arena.resolve ty))
      (Unifier.query (Resolver.apply Resolver.following ty)) :=
  query_lockstep (Resolver.apply_lockstep resolve_lockstep depthBound_eq ty)

theorem occurs_lockstep (v : TypeVar) (ty : Ty) :
    Lockstep (Twins reference) (Unifier.query (Resolver.occurs Arena.resolve v ty))
      (Unifier.query (Resolver.occurs Resolver.following v ty)) :=
  query_lockstep (Resolver.occurs_lockstep resolve_lockstep depthBound_eq v ty)

theorem inStep {x y : Unifier α} (h : Twins reference s t)
    (hxy : Lockstep (Twins reference) x y) :
    InStep x y s t (fun _ => Twins reference) Paired :=
  (hxy s t h).mono (fun _ _ _ h => h) fun _ _ h => h.paired

theorem resolve_inStep (h : Twins reference s t) (ty : Ty) :
    InStep (Unifier.query (Arena.resolve ty)) (Unifier.query (Resolver.following ty)) s t
      (fun found s' t' => Twins reference s' t' ∧
        ∀ v, found = .var v → reference.Owns v ∧ reference.entry v = none) Paired := by
  refine (query_inStep _ h ?_).mono (fun _ _ _ h => h) fun _ _ h => h.paired
  rw [h.arena_eq]
  exact h.mirrors.resolve_inStep ty

/-- Binding a variable that the reference arena has not bound. -/
theorem substitute_inStep {v : TypeVar} {ty : Ty} (h : Twins reference s t)
    (hv : reference.Owns v ∧ reference.entry v = none)
    (hstop : ∀ w, ty = .var w → w ≠ v ∧ reference.Owns w ∧ reference.entry w = none) :
    InStep (Resolver.substitute Arena.resolve v ty)
      (Resolver.substitute Resolver.following v ty) s t (fun _ => Paired) Paired := by
  obtain ⟨howns, hunbound⟩ := hv
  have hs : Unifier.lookup v s = .ok none s := by
    unfold Unifier.lookup
    rw [Arena.lookup_of_owns ((h.mirrors.owns_iff v).mpr howns), h.mirrors.entry_eq_none hunbound]
  have ht : Unifier.lookup v t = .ok none t := by
    unfold Unifier.lookup
    rw [h.arena_eq, Arena.lookup_of_owns howns, hunbound]
  have hlookup : InStep (Unifier.lookup v) (Unifier.lookup v) s t
      (fun entry s' t' => entry = none ∧ Twins reference s' t') Paired := .ok hs ht ⟨rfl, h⟩
  refine InStep.bind hlookup fun entry s t hentry => ?_
  obtain ⟨rfl, h⟩ := hentry
  refine InStep.bind (h.inStep (write_lockstep _ _)) fun _ s t h => ?_
  refine .ok rfl rfl ⟨reference.assign v ty, h.mirrors.assign howns hunbound hstop, ?_,
    h.trace_eq⟩
  rw [← h.arena_eq]

theorem bindVar_inStep {v : TypeVar} {ty : Ty} (h : Twins reference s t)
    (hv : reference.Owns v ∧ reference.entry v = none)
    (hstop : ∀ w, ty = .var w → w ≠ v ∧ reference.Owns w ∧ reference.entry w = none) :
    InStep (Resolver.bindVar Arena.resolve v ty)
      (Resolver.bindVar Resolver.following v ty) s t (fun _ => Paired) Paired := by
  have hchecked : InStep (do
      if ← Unifier.query (Resolver.occurs Arena.resolve v ty) then
        let ty ← Unifier.query (Resolver.apply Arena.resolve ty)
        throw (.error (.occurs v ty))
      else Resolver.substitute Arena.resolve v ty) (do
      if ← Unifier.query (Resolver.occurs Resolver.following v ty) then
        let ty ← Unifier.query (Resolver.apply Resolver.following ty)
        throw (.error (.occurs v ty))
      else Resolver.substitute Resolver.following v ty) s t (fun _ => Paired) Paired := by
    refine InStep.bind (h.inStep (occurs_lockstep v ty)) fun found s t h => ?_
    cases found with
    | true =>
      exact InStep.bind (h.inStep (apply_lockstep ty)) fun _ s t h => InStep.throw h.paired
    | false => exact h.substitute_inStep hv hstop
  cases ty with
  | var w => exact h.substitute_inStep hv hstop
  | _ => exact hchecked

theorem refuse_inStep (h : Twins reference s t) (reason : Ty → Ty → InferenceError)
    (left right : Ty) :
    InStep (Resolver.refuse Arena.resolve reason left right)
      (Resolver.refuse Resolver.following reason left right) s t (fun _ => Paired) Paired := by
  refine InStep.bind (h.inStep (apply_lockstep left)) fun _ s t h => ?_
  exact InStep.bind (h.inStep (apply_lockstep right)) fun _ s t h => InStep.throw h.paired

end Twins

namespace Paired

theorem unifyWithin_lockstep (depth : Nat) (left right : Ty) :
    Lockstep Paired (Resolver.unifyWithin Arena.resolve depth left right)
      (Resolver.unifyWithin Resolver.following depth left right) := by
  induction depth generalizing left right with
  | zero => exact Lockstep.throw _
  | succ depth ih =>
    intro s t hst
    obtain ⟨reference, h⟩ := hst
    rw [Resolver.unifyWithin, Resolver.unifyWithin]
    refine InStep.bind (h.resolve_inStep left) fun left s t hleft => ?_
    obtain ⟨h, hleft⟩ := hleft
    refine InStep.bind (h.resolve_inStep right) fun right s t hright => ?_
    obtain ⟨h, hright⟩ := hright
    refine InStep.bind (h.inStep (Twins.write_lockstep _ _)) fun _ s t h => ?_
    split
    · rename_i v w
      by_cases hvw : v = w
      · rw [if_pos hvw, if_pos hvw]
        exact InStep.throw h.paired
      · rw [if_neg hvw, if_neg hvw]
        refine h.bindVar_inStep (hleft v rfl) fun u hu => ?_
        cases hu
        exact ⟨fun hwv => hvw hwv.symm, hright w rfl⟩
    · rename_i v hnot
      exact h.bindVar_inStep (hleft v rfl) fun w hw => (hnot w hw).elim
    · rename_i w hnot
      exact h.bindVar_inStep (hright w rfl) fun v hv => (hnot v hv).elim
    · rename_i m n
      by_cases hmn : m = n
      · rw [if_pos hmn, if_pos hmn]
        exact InStep.pure h.paired
      · rw [if_neg hmn, if_neg hmn]
        exact h.refuse_inStep _ _ _
    · rename_i params result params' result'
      by_cases hlength : params.length ≠ params'.length
      · rw [if_pos hlength, if_pos hlength]
        exact h.refuse_inStep _ _ _
      · rw [if_neg hlength, if_neg hlength]
        exact Lockstep.bind (Lockstep.forM _ fun (pair : Ty × Ty) => ih pair.1 pair.2)
          (fun _ => ih result result') s t h.paired
    · exact InStep.throw h.paired
    · exact h.refuse_inStep _ _ _

theorem unify_lockstep (left right : Ty) :
    Lockstep Paired (Resolver.unify Arena.resolve left right)
      (Resolver.unify Resolver.following left right) := by
  refine Lockstep.bounded (fun depth => unifyWithin_lockstep depth left right) fun s t hst => ?_
  obtain ⟨reference, h⟩ := hst
  exact Twins.depthBound_eq s.arena t.arena [left, right] ⟨h.mirrors, h.arena_eq⟩ (by simp)

theorem query_lockstep {α β : Type} {ask ask' : Query α} (f : α → β)
    (hask : ∀ reference, Lockstep (Twins.Asked reference) ask ask') :
    Lockstep Paired (do return f (← Unifier.query ask)) (do return f (← Unifier.query ask')) := by
  intro s t hst
  obtain ⟨reference, h⟩ := hst
  exact InStep.bind (h.inStep (Twins.query_lockstep (hask reference))) fun _ _ _ h =>
    InStep.pure h.paired

/-- The engine and the reference engine carry out every request alike. -/
theorem perform_lockstep (request : Request) :
    Lockstep Paired (Engine.standard.perform request) (Engine.reference.perform request) := by
  rw [← Engine.ofResolver_resolve]
  cases request with
  | fresh =>
    intro s t hst
    obtain ⟨reference, h⟩ := hst
    have hfresh : ∀ engine session, Engine.perform engine .fresh session =
        .ok (.variable ⟨session.arena.size⟩) { session with arena := session.arena.grow 1 } := by
      intro engine session
      have hunifier : Unifier.fresh session =
          .ok ⟨session.arena.size⟩ { session with arena := session.arena.grow 1 } := by
        unfold Unifier.fresh
        rw [Arena.fresh_eq_grow]
      simp only [Engine.perform, Bind.bind, EStateM.bind, hunifier]
      rfl
    have hs := hfresh (Engine.ofResolver Arena.resolve) s
    rw [h.mirrors.size_eq, ← h.arena_eq] at hs
    exact .ok hs (hfresh Engine.reference t)
      ⟨reference.grow 1, h.mirrors.grow, congrArg (Arena.grow · 1) h.arena_eq, h.trace_eq⟩
  | size =>
    intro s t hst
    obtain ⟨reference, h⟩ := hst
    have hsize : ∀ engine session, Engine.perform engine .size session =
        .ok (.count session.arena.size) session := fun _ _ => rfl
    have hs := hsize (Engine.ofResolver Arena.resolve) s
    rw [h.mirrors.size_eq, ← h.arena_eq] at hs
    exact .ok hs (hsize Engine.reference t) h.paired
  | unify left right => exact Lockstep.bind (unify_lockstep left right) fun _ => Lockstep.pure _
  | resolve ty => exact query_lockstep _ fun _ => Twins.resolve_lockstep ty
  | apply ty =>
    exact query_lockstep _ fun _ => Resolver.apply_lockstep Twins.resolve_lockstep
      Twins.depthBound_eq ty
  | isBound v =>
    exact query_lockstep _ fun _ => Resolver.isBound_lockstep Twins.resolve_lockstep v
  | occurs v ty =>
    exact query_lockstep _ fun _ => Resolver.occurs_lockstep Twins.resolve_lockstep
      Twins.depthBound_eq v ty
  | unresolvable ty =>
    exact query_lockstep _ fun _ => Resolver.unresolvable_lockstep Twins.resolve_lockstep
      Twins.depthBound_eq ty
  | identical left right =>
    exact query_lockstep _ fun _ => Resolver.identical_lockstep Twins.resolve_lockstep
      Twins.depthBound_eq left right

theorem event {s t : Session} (h : Paired s t) (request : Request) :
    (Engine.standard.event request s).outcome = (Engine.reference.event request t).outcome ∧
      Paired (Engine.standard.event request s).after
        (Engine.reference.event request t).after := by
  unfold Engine.event
  cases perform_lockstep request s t h with
  | ok hx hy h' =>
    rw [hx, hy]
    exact ⟨rfl, h'⟩
  | error hx hy h' =>
    rw [hx, hy]
    exact ⟨rfl, h'⟩

theorem entry_eq_none_iff {s t : Session} (h : Paired s t) (v : TypeVar) :
    s.arena.entry v = none ↔ t.arena.entry v = none := by
  obtain ⟨reference, hmirrors, rfl, _⟩ := h
  exact ⟨hmirrors.symm.entry_eq_none, hmirrors.entry_eq_none⟩

theorem history {s t : Session} (h : Paired s t) (requests : List Request) :
    List.Forall₂ (fun event event' => event.outcome = event'.outcome ∧
        Paired event.after event'.after)
      (Engine.standard.history requests s) (Engine.reference.history requests t) := by
  induction requests generalizing s t with
  | nil => exact .nil
  | cons request rest ih =>
    have hevent := h.event request
    exact .cons hevent (ih hevent.2)

end Paired

/-- Path compression cannot be observed. Whatever is asked of a new arena, by the engine and by
the engine that never rewrites an entry, every request has the same outcome, and after each
request the same variables have an entry and the same variables are bound. -/
theorem path_compression_unobservable (trace : Trace) (requests : List Request) :
    List.Forall₂ (fun event event' => event.outcome = event'.outcome ∧
        ∀ v, (event.after.arena.entry v = none ↔ event'.after.arena.entry v = none) ∧
          (Engine.standard.event (.isBound v) event.after).outcome =
            (Engine.reference.event (.isBound v) event'.after).outcome)
      (Engine.standard.history requests ⟨Arena.empty, trace⟩)
      (Engine.reference.history requests ⟨Arena.empty, trace⟩) := by
  have hstart : Paired ⟨Arena.empty, trace⟩ ⟨Arena.empty, trace⟩ :=
    ⟨Arena.empty, Arena.Mirrors.empty, rfl, rfl⟩
  refine (hstart.history requests).imp fun event event' hevent => ?_
  obtain ⟨houtcome, hafter⟩ := hevent
  exact ⟨houtcome, fun v => ⟨hafter.entry_eq_none_iff v, (hafter.event (.isBound v)).1⟩⟩

end Typeflow
