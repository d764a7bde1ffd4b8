import Typeflow.Proofs.Arena.Entry
import Typeflow.Proofs.Session

/-!
Arenas that map variables to closed types. A closed type has no variables and no empty places, so
a path ends at the first entry it meets: questions leave such an arena exactly as it is, and their
answers can be read off the types. Unification of closed types compares them; unification of a
closed type with an unbound variable sets one entry.
-/

namespace Typeflow

namespace Ty

/-- There is no variable and no empty place in the type. -/
def Closed (ty : Ty) : Prop := ty.vars = [] ∧ ty.nilFree = true

instance (ty : Ty) : Decidable ty.Closed := inferInstanceAs (Decidable (_ ∧ _))

theorem closed_fn {params : List Ty} {result : Ty} :
    (Ty.fn params result).Closed ↔ (∀ p ∈ params, p.Closed) ∧ result.Closed := by
  have hvars : varsList params = [] ↔ ∀ p ∈ params, p.vars = [] := by
    induction params with
    | nil => simp [varsList]
    | cons first rest ih => simp [varsList, ih]
  unfold Closed
  rw [nilFree_fn]
  simp only [vars, List.append_eq_nil_iff, hvars]
  constructor
  · rintro ⟨⟨hp, hr⟩, hp', hr'⟩
    exact ⟨fun p h => ⟨hp p h, hp' p h⟩, hr, hr'⟩
  · rintro ⟨hp, hr, hr'⟩
    exact ⟨⟨fun p h => (hp p h).1, hr⟩, fun p h => (hp p h).2, hr'⟩

theorem not_closed_var (v : TypeVar) : ¬ (Ty.var v).Closed := by simp [Closed, vars]

theorem not_closed_absent : ¬ Ty.absent.Closed := by simp [Closed, nilFree]

theorem Closed.ne_var {ty : Ty} (h : ty.Closed) (v : TypeVar) : ty ≠ .var v := by
  rintro rfl
  exact not_closed_var v h

theorem Closed.ne_absent {ty : Ty} (h : ty.Closed) : ty ≠ .absent := ne_absent_of_nilFree h.2

end Ty

namespace Arena

/-- Every entry is a closed type. -/
def Closed (arena : Arena) : Prop := ∀ v ty, arena.entry v = some ty → ty.Closed

variable {arena : Arena} {v : TypeVar} {ty : Ty}

theorem resolve_unbound (hv : arena.Owns v) (hentry : arena.entry v = none) :
    resolve (.var v) arena = .ok (.var v) arena := by
  have hfollow : arena.follow arena.size (.var v) = .ok (.var v, []) := by
    unfold follow
    rw [lookup_of_owns hv, hentry]
  unfold resolve
  rw [hfollow]
  rfl

theorem resolve_direct (hentry : arena.entry v = some ty) (h : ∀ w, ty ≠ .var w) :
    resolve (.var v) arena = .ok ty arena := by
  have hv := owns_of_entry hentry
  obtain ⟨steps, hsteps⟩ : ∃ steps, arena.size = steps + 1 := by
    obtain ⟨n, hn, _⟩ := owns_iff_exists.mp hv
    exact ⟨arena.size - 1, by omega⟩
  have hfollow : arena.follow arena.size (.var v) = .ok (ty, [v]) := by
    rw [hsteps]
    unfold follow
    simp only [lookup_of_owns hv, hentry, follow_of_ne_var arena steps h]
  unfold resolve
  rw [hfollow]
  rfl

theorem isBound_unbound (hv : arena.Owns v) (hentry : arena.entry v = none) :
    isBound v arena = .ok false arena := by
  apply Ends.eq_ok
  exact Ends.bind_of_ok (resolve_unbound hv hentry) (Ends.pure ⟨rfl, rfl⟩)

theorem isBound_direct (hentry : arena.entry v = some ty) (h : ∀ w, ty ≠ .var w) :
    isBound v arena = .ok true arena := by
  apply Ends.eq_ok
  refine Ends.bind_of_ok (resolve_direct hentry h) ?_
  cases ty with
  | var w => exact absurd rfl (h w)
  | _ => exact Ends.pure ⟨rfl, rfl⟩

theorem applyWithin_closed (arena : Arena) {depth : Nat} (h : ty.Closed)
    (hdepth : ty.height ≤ depth) : applyWithin depth ty arena = .ok ty arena := by
  induction depth generalizing ty with
  | zero =>
    have hpos := ty.height_pos
    omega
  | succ depth ih =>
    apply Ends.eq_ok
    refine Ends.bind_of_ok (resolve_of_ne_var arena h.ne_var) ?_
    cases ty with
    | fn params result =>
      obtain ⟨hparams, hresult⟩ := Ty.closed_fn.mp h
      obtain ⟨hheights, hheight⟩ := Ty.height_fn_le_iff.mp hdepth
      have hmap : Ends (params.mapM (applyWithin depth)) arena
          (fun types arena' => types = params.map id ∧ arena' = arena) fun _ _ => False := by
        refine Ends.mapM params ?_ arena rfl
        rintro p hp _ rfl
        exact Ends.of_eq_ok (ih (hparams p hp) (hheights p hp)) ⟨rfl, rfl⟩
      refine Ends.bind hmap ?_
      rintro _ _ ⟨rfl, rfl⟩
      refine Ends.bind_of_ok (ih hresult hheight) (Ends.pure ⟨?_, rfl⟩)
      rw [List.map_id]
    | _ => exact Ends.pure ⟨rfl, rfl⟩

theorem apply_closed (arena : Arena) (h : ty.Closed) : apply ty arena = .ok ty arena :=
  applyWithin_closed arena h (height_le_depthBound List.mem_cons_self)

theorem applyWithin_var (hclosed : arena.Closed) (hv : arena.Owns v) {depth : Nat}
    (hdepth : ∀ ty, arena.entry v = some ty → ty.height ≤ depth + 1) :
    applyWithin (depth + 1) (.var v) arena = .ok ((arena.entry v).getD (.var v)) arena := by
  cases hentry : arena.entry v with
  | none =>
    apply Ends.eq_ok
    exact Ends.bind_of_ok (resolve_unbound hv hentry) (Ends.pure ⟨rfl, rfl⟩)
  | some ty =>
    have hty := hclosed v ty hentry
    have heq : applyWithin (depth + 1) (.var v) arena = applyWithin (depth + 1) ty arena := by
      simp only [applyWithin, Resolver.applyWithin, Bind.bind, EStateM.bind,
        resolve_direct hentry hty.ne_var, resolve_of_ne_var arena hty.ne_var]
    rw [heq]
    exact applyWithin_closed arena hty (hdepth ty hentry)

theorem apply_var (hclosed : arena.Closed) (hv : arena.Owns v) :
    apply (.var v) arena = .ok ((arena.entry v).getD (.var v)) arena := by
  obtain ⟨depth, hdepth, _, hentries⟩ := exists_depth arena [.var v]
  rw [apply_eq_applyWithin, hdepth]
  refine applyWithin_var hclosed hv fun ty hty => ?_
  have hheight := hentries v ty hty
  omega

/-- What the arena knows about a variable: its entry, or nothing but the variable itself. -/
def known (arena : Arena) (v : TypeVar) : Ty := (arena.entry v).getD (.var v)

/-- The type of a call site: what is known about the arguments and about the result. -/
theorem apply_site (hclosed : arena.Closed) {args : List TypeVar} {out : TypeVar}
    (hargs : ∀ arg ∈ args, arena.Owns arg) (hout : arena.Owns out) :
    apply (.fn (args.map .var) (.var out)) arena =
      .ok (.fn (args.map arena.known) (arena.known out)) arena := by
  obtain ⟨depth, hdepth, htypes, hentries⟩ :=
    exists_depth arena [.fn (args.map .var) (.var out)]
  obtain ⟨depth, rfl⟩ : ∃ d, depth = d + 1 := by
    have hpos := Ty.height_pos (.fn (args.map .var) (.var out))
    have hheight := htypes _ List.mem_cons_self
    exact ⟨depth - 1, by omega⟩
  have hvar : ∀ v, arena.Owns v →
      applyWithin (depth + 1) (.var v) arena = .ok (arena.known v) arena :=
    fun v hv => applyWithin_var hclosed hv fun ty hty => hentries v ty hty
  have happly : apply (.fn (args.map .var) (.var out)) arena =
      applyWithin (depth + 2) (.fn (args.map .var) (.var out)) arena := by
    rw [apply_eq_applyWithin, hdepth]
  have hmap : Ends ((args.map Ty.var).mapM (applyWithin (depth + 1))) arena
      (fun types arena' => types = (args.map Ty.var).map (Ty.subst arena.known) ∧ arena' = arena)
      fun _ _ => False := by
    refine Ends.mapM _ ?_ arena rfl
    rintro ty hty _ rfl
    obtain ⟨arg, harg, rfl⟩ := List.mem_map.mp hty
    exact Ends.of_eq_ok (hvar arg (hargs arg harg)) ⟨rfl, rfl⟩
  rw [happly]
  apply Ends.eq_ok
  refine Ends.bind_of_ok (resolve_of_ne_var arena (by simp)) (Ends.bind hmap ?_)
  rintro _ _ ⟨rfl, rfl⟩
  refine Ends.bind_of_ok (hvar out hout) (Ends.pure ⟨?_, rfl⟩)
  simp [Function.comp_def]

theorem occursWithin_closed (arena : Arena) (v : TypeVar) {depth : Nat} (h : ty.Closed)
    (hdepth : ty.height ≤ depth) : occursWithin v depth ty arena = .ok false arena := by
  induction depth generalizing ty with
  | zero =>
    have hpos := ty.height_pos
    omega
  | succ depth ih =>
    apply Ends.eq_ok
    refine Ends.bind_of_ok (resolve_of_ne_var arena h.ne_var) ?_
    cases ty with
    | fn params result =>
      obtain ⟨hparams, hresult⟩ := Ty.closed_fn.mp h
      obtain ⟨hheights, hheight⟩ := Ty.height_fn_le_iff.mp hdepth
      have hany := Ends.anyM_eq_ok fun p hp => ih (hparams p hp) (hheights p hp)
      rw [List.any_eq_false.mpr (by simp)] at hany
      exact Ends.bind_of_ok hany (Ends.of_eq_ok (ih hresult hheight) ⟨rfl, rfl⟩)
    | var w => exact absurd h (Ty.not_closed_var w)
    | absent => exact absurd h Ty.not_closed_absent
    | _ => exact Ends.pure ⟨rfl, rfl⟩

theorem occurs_closed (arena : Arena) (v : TypeVar) (h : ty.Closed) :
    occurs v ty arena = .ok false arena :=
  occursWithin_closed arena v h (height_le_depthBound List.mem_cons_self)

theorem unresolvableWithin_closed (arena : Arena) {depth : Nat} (h : ty.Closed)
    (hdepth : ty.height ≤ depth) :
    unresolvableWithin depth ty arena = .ok ty.mentionsUnresolvable arena := by
  induction depth generalizing ty with
  | zero =>
    have hpos := ty.height_pos
    omega
  | succ depth ih =>
    apply Ends.eq_ok
    refine Ends.bind_of_ok (resolve_of_ne_var arena h.ne_var) ?_
    cases ty with
    | fn params result =>
      obtain ⟨hparams, hresult⟩ := Ty.closed_fn.mp h
      obtain ⟨hheights, hheight⟩ := Ty.height_fn_le_iff.mp hdepth
      refine Ends.bind_of_ok
        (Ends.anyM_eq_ok fun p hp => ih (hparams p hp) (hheights p hp)) ?_
      rw [Ty.mentionsUnresolvable, Ty.anyUnresolvable_eq_any]
      cases params.any Ty.mentionsUnresolvable with
      | true => exact Ends.pure ⟨rfl, rfl⟩
      | false => exact Ends.of_eq_ok (ih hresult hheight) ⟨rfl, rfl⟩
    | var w => exact absurd h (Ty.not_closed_var w)
    | absent => exact absurd h Ty.not_closed_absent
    | _ => exact Ends.pure ⟨rfl, rfl⟩

theorem unresolvable_closed (arena : Arena) (h : ty.Closed) :
    unresolvable ty arena = .ok ty.mentionsUnresolvable arena :=
  unresolvableWithin_closed arena h (height_le_depthBound List.mem_cons_self)

theorem unresolvable_var (hclosed : arena.Closed) (hv : arena.Owns v) :
    unresolvable (.var v) arena =
      .ok ((arena.entry v).getD (.var v)).mentionsUnresolvable arena := by
  obtain ⟨depth, hdepth, _, hentries⟩ := exists_depth arena [.var v]
  rw [unresolvable_eq_unresolvableWithin, hdepth]
  cases hentry : arena.entry v with
  | none =>
    apply Ends.eq_ok
    exact Ends.bind_of_ok (resolve_unbound hv hentry) (Ends.pure ⟨rfl, rfl⟩)
  | some ty =>
    have hty := hclosed v ty hentry
    have heq : unresolvableWithin (depth + 1) (.var v) arena =
        unresolvableWithin (depth + 1) ty arena := by
      simp only [unresolvableWithin, Resolver.unresolvableWithin, Bind.bind, EStateM.bind,
        resolve_direct hentry hty.ne_var, resolve_of_ne_var arena hty.ne_var]
    rw [heq]
    have hheight := hentries v ty hentry
    exact unresolvableWithin_closed arena hty (by omega)

end Arena

end Typeflow
