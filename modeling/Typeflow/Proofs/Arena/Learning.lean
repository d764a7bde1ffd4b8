import Typeflow.Proofs.Arena.Comparison

/-!
What an arena of closed types learns. A variable that meets a closed type learns it. An arena that
has learned some pairs of variables and types knows what it knew before and the pairs, and nothing
else; the attempt fails only at a pair whose variable is known by a type that does not agree.
Among ground types this means that a variable gets two types. A call makes its arguments and its
result learn the parameters and the result of its callee.
-/

namespace Typeflow

namespace Arena

/-- Every entry is a ground type. -/
def Ground (arena : Arena) : Prop := ∀ v ty, arena.entry v = some ty → ty.Ground

theorem Ground.closed {arena : Arena} (h : arena.Ground) : arena.Closed :=
  fun v ty hentry => (h v ty hentry).1

/-- The arena, or one of the pairs, gives the variable this type. -/
def Says (arena : Arena) (pairs : List (TypeVar × Ty)) (v : TypeVar) (ty : Ty) : Prop :=
  arena.entry v = some ty ∨ (v, ty) ∈ pairs

/-- Some variable gets two types. -/
def Clash (arena : Arena) (pairs : List (TypeVar × Ty)) : Prop :=
  ∃ v ty ty', arena.Says pairs v ty ∧ arena.Says pairs v ty' ∧ ty ≠ ty'

/-- The second arena knows what the first one knows and the pairs, and nothing else. -/
structure Learned (arena : Arena) (pairs : List (TypeVar × Ty)) (arena' : Arena) : Prop where
  size_eq : arena'.size = arena.size
  entry_iff : ∀ v ty, arena'.entry v = some ty ↔ arena.Says pairs v ty

theorem Learned.nil (arena : Arena) : arena.Learned [] arena := ⟨rfl, by simp [Says]⟩

theorem Learned.append {arena arena' arena'' : Arena} {pairs pairs' : List (TypeVar × Ty)}
    (h : arena.Learned pairs arena') (h' : arena'.Learned pairs' arena'') :
    arena.Learned (pairs ++ pairs') arena'' := by
  refine ⟨h'.size_eq.trans h.size_eq, fun v ty => ?_⟩
  rw [h'.entry_iff, Says, h.entry_iff]
  simp only [Says, List.mem_append, or_assoc]

/-- The pairs cannot be learned: what the arena or an earlier pair says about a variable does not
agree with a later pair. -/
def Discord (arena : Arena) (pairs : List (TypeVar × Ty)) (failure : Failure) : Prop :=
  ∃ earlier v ty later other, pairs = earlier ++ (v, ty) :: later ∧ arena.Says earlier v other ∧
    Ty.Differ other ty failure

theorem Discord.append {arena : Arena} {pairs : List (TypeVar × Ty)} {failure : Failure}
    (h : arena.Discord pairs failure) (pairs' : List (TypeVar × Ty)) :
    arena.Discord (pairs ++ pairs') failure := by
  obtain ⟨earlier, v, ty, later, other, rfl, hsays, hdiffer⟩ := h
  exact ⟨earlier, v, ty, later ++ pairs', other, by simp, hsays, hdiffer⟩

theorem Learned.discord {arena arena' : Arena} {pairs pairs' : List (TypeVar × Ty)}
    {failure : Failure} (h : arena.Learned pairs arena')
    (hdiscord : arena'.Discord pairs' failure) :
    arena.Discord (pairs ++ pairs') failure := by
  obtain ⟨earlier, v, ty, later, other, rfl, hsays, hdiffer⟩ := hdiscord
  refine ⟨pairs ++ earlier, v, ty, later, other, by simp, ?_, hdiffer⟩
  rw [Says, h.entry_iff, Says, or_assoc, ← List.mem_append] at hsays
  exact hsays

theorem Discord.clash {arena : Arena} {pairs : List (TypeVar × Ty)} {failure : Failure}
    (h : arena.Discord pairs failure) (hground : arena.Ground)
    (hpairs : ∀ pair ∈ pairs, pair.2.Ground) : Refusal failure ∧ arena.Clash pairs := by
  obtain ⟨earlier, v, ty, later, other, rfl, hsays, hdiffer⟩ := h
  have hsays' : arena.Says (earlier ++ (v, ty) :: later) v other :=
    hsays.imp id (List.mem_append_left _)
  have hother : other.Ground := by
    rcases hsays' with hentry | hpair
    · exact hground v other hentry
    · exact hpairs _ hpair
  exact ⟨hdiffer.refusal, v, other, ty, hsays', Or.inr (by simp), hdiffer.ne hother.2⟩

theorem Learned.forall_entry {arena arena' : Arena} {pairs : List (TypeVar × Ty)} {P : Ty → Prop}
    (h : arena.Learned pairs arena') (harena : ∀ v ty, arena.entry v = some ty → P ty)
    (hpairs : ∀ pair ∈ pairs, P pair.2) : ∀ v ty, arena'.entry v = some ty → P ty := by
  intro v ty hty
  rcases (h.entry_iff v ty).mp hty with hold | hpair
  · exact harena v ty hold
  · exact hpairs _ hpair

theorem Learned.closed {arena arena' : Arena} {pairs : List (TypeVar × Ty)}
    (h : arena.Learned pairs arena') (hclosed : arena.Closed)
    (hpairs : ∀ pair ∈ pairs, pair.2.Closed) : arena'.Closed :=
  h.forall_entry hclosed hpairs

theorem Learned.ground {arena arena' : Arena} {pairs : List (TypeVar × Ty)}
    (h : arena.Learned pairs arena') (hground : arena.Ground)
    (hpairs : ∀ pair ∈ pairs, pair.2.Ground) : arena'.Ground :=
  h.forall_entry hground hpairs

theorem Learned.owns {arena arena' : Arena} {pairs : List (TypeVar × Ty)}
    (h : arena.Learned pairs arena') {v : TypeVar} : arena'.Owns v ↔ arena.Owns v := by
  unfold Owns
  rw [h.size_eq]

theorem learned_assign {arena : Arena} {v : TypeVar} {ty : Ty} (hv : arena.Owns v)
    (hentry : arena.entry v = none) (hty : ty ≠ .absent) :
    arena.Learned [(v, ty)] (arena.assign v ty) := by
  refine ⟨size_assign .., fun w u => ?_⟩
  rw [entry_assign hv hty, Says]
  by_cases hw : w = v
  · subst hw
    simp [hentry, eq_comm]
  · simp [hw]

theorem learned_known {arena : Arena} {v : TypeVar} {ty : Ty} (hentry : arena.entry v = some ty) :
    arena.Learned [(v, ty)] arena := by
  refine ⟨rfl, fun w u => ⟨Or.inl, ?_⟩⟩
  rintro (h | h)
  · exact h
  · simp only [List.mem_singleton, Prod.mk.injEq] at h
    rw [h.1, h.2, hentry]

theorem discord_singleton {arena : Arena} {v : TypeVar} {ty : Ty} {failure : Failure} :
    arena.Discord [(v, ty)] failure ↔
      ∃ other, arena.entry v = some other ∧ Ty.Differ other ty failure := by
  constructor
  · rintro ⟨earlier, w, u, later, other, hpairs, hsays, hdiffer⟩
    cases earlier with
    | nil =>
      cases hpairs
      exact ⟨other, hsays.resolve_right (by simp), hdiffer⟩
    | cons first rest => simp at hpairs
  · rintro ⟨other, hentry, hdiffer⟩
    exact ⟨[], v, ty, [], other, rfl, Or.inl hentry, hdiffer⟩

/-- The mark does not stand in what is known about the variable. -/
def Clean (arena : Arena) (v : TypeVar) : Prop :=
  ∀ ty, arena.entry v = some ty → ty.mentionsUnresolvable = false

theorem Clean.known {arena : Arena} {v : TypeVar} (h : arena.Clean v) :
    (arena.known v).mentionsUnresolvable = false := by
  unfold Arena.known
  cases hentry : arena.entry v with
  | none => rfl
  | some ty => exact h ty hentry

end Arena

def Session.Learns (session : Session) (arena : Arena) (pairs : List (TypeVar × Ty)) : Prop :=
  ∃ arena', session.At arena' ∧ arena.Learned pairs arena'

namespace Unifier

variable {session : Session} {arena : Arena} {v : TypeVar} {ty : Ty} {depth : Nat}

theorem learn (hs : session.At arena) (hclosed : arena.Closed) (hv : arena.Owns v)
    (hty : ty.Closed) (hdepth : ty.height ≤ depth) :
    Ends (unifyWithin depth (.var v) ty) session (fun _ s' => s'.Learns arena [(v, ty)])
      (fun failure _ => arena.Discord [(v, ty)] failure) ∧
    Ends (unifyWithin depth ty (.var v)) session (fun _ s' => s'.Learns arena [(v, ty)])
      fun failure _ => arena.Discord [(v, ty)] failure := by
  cases hentry : arena.entry v with
  | none =>
    obtain ⟨depth, rfl⟩ : ∃ d, depth = d + 1 := by
      have hpos := ty.height_pos
      exact ⟨depth - 1, by omega⟩
    have hlearned := Arena.learned_assign hv hentry hty.ne_absent
    obtain ⟨hleft, hright⟩ := unifyWithin_unbound hs hv hentry hty depth
    exact ⟨hleft.mono (fun _ _ h => ⟨_, h, hlearned⟩) fun _ _ h => h,
      hright.mono (fun _ _ h => ⟨_, h, hlearned⟩) fun _ _ h => h⟩
  | some other =>
    obtain ⟨hleft, hright⟩ := unifyWithin_bound hs hentry (hclosed v other hentry) hty hdepth
    constructor
    · refine hleft.mono ?_ fun _ _ h =>
        Arena.discord_singleton.mpr ⟨other, hentry, h.2⟩
      rintro _ s' ⟨hs', rfl, _⟩
      exact ⟨arena, hs', Arena.learned_known hentry⟩
    · refine hright.mono ?_ fun _ _ h =>
        Arena.discord_singleton.mpr ⟨other, hentry, h.2.symm⟩
      rintro _ s' ⟨hs', rfl, _⟩
      exact ⟨arena, hs', Arena.learned_known hentry⟩

theorem learnAll (pairs : List (TypeVar × Ty)) (hs : session.At arena) (hclosed : arena.Closed)
    (hpairs : ∀ pair ∈ pairs, arena.Owns pair.1 ∧ pair.2.Closed ∧ pair.2.height ≤ depth) :
    Ends (pairs.forM fun pair => unifyWithin depth pair.2 (.var pair.1)) session
      (fun _ s' => s'.Learns arena pairs) fun failure _ => arena.Discord pairs failure := by
  induction pairs generalizing arena session with
  | nil => exact Ends.pure ⟨arena, hs, Arena.Learned.nil arena⟩
  | cons first rest ih =>
    obtain ⟨⟨hv, hty, hheight⟩, hrest⟩ := List.forall_mem_cons.mp hpairs
    have hfirst := (learn hs hclosed hv hty hheight).2
    refine Ends.bind (hfirst.mono (fun _ _ h => h) fun _ _ h => h.append rest) ?_
    rintro _ s₁ ⟨arena₁, hs₁, hlearned⟩
    have hclosed₁ := hlearned.closed hclosed (by simpa using hty)
    have hrest₁ : ∀ pair ∈ rest,
        arena₁.Owns pair.1 ∧ pair.2.Closed ∧ pair.2.height ≤ depth := by
      intro pair hpair
      rw [hlearned.owns]
      exact hrest pair hpair
    refine (ih hs₁ hclosed₁ hrest₁).mono ?_ fun _ _ h => hlearned.discord h
    rintro _ s₂ ⟨arena₂, hs₂, hlearned'⟩
    exact ⟨arena₂, hs₂, hlearned.append hlearned'⟩

theorem unify_eq {left right : Ty} (hs : session.At arena) :
    unify left right session =
      unifyWithin (arena.depthBound [left, right]) left right session := by
  rw [unify_eq_unifyWithin, hs.arena_eq]

theorem unify_closed {left right : Ty} (hs : session.At arena) (hl : left.Closed)
    (hr : right.Closed) :
    Ends (unify left right) session (fun _ s' => s'.At arena ∧ Ty.Agree left right)
      fun failure s' => s'.At arena ∧ Ty.Differ left right failure :=
  Ends.congr (unify_eq hs) (unifyWithin_closed hs hl hr
    (Or.inl (Arena.height_le_depthBound List.mem_cons_self)))

theorem unify_var (hs : session.At arena) (hclosed : arena.Closed) (hv : arena.Owns v)
    (hty : ty.Closed) :
    Ends (unify (.var v) ty) session (fun _ s' => s'.Learns arena [(v, ty)])
      fun failure _ => arena.Discord [(v, ty)] failure :=
  Ends.congr (unify_eq hs)
    (learn hs hclosed hv hty (Arena.height_le_depthBound (by simp))).1

private theorem zip_site (params : List Ty) (args : List TypeVar) :
    params.zip (args.map Ty.var) =
      (args.zip params).map fun pair => (pair.2, Ty.var pair.1) := by
  induction args generalizing params with
  | nil => simp
  | cons arg args ih =>
    cases params with
    | nil => simp
    | cons p params => simp [ih]

/-- A call of a function with the right number of arguments learns the parameters for the
arguments and the result of the function for its own result. -/
theorem unify_call {params : List Ty} {result : Ty} {args : List TypeVar} {out : TypeVar}
    (hs : session.At arena) (hclosed : arena.Closed) (hargs : ∀ arg ∈ args, arena.Owns arg)
    (hout : arena.Owns out) (hfn : (Ty.fn params result).Closed)
    (hlength : params.length = args.length) :
    Ends (unify (.fn params result) (.fn (args.map .var) (.var out))) session
      (fun _ s' => s'.Learns arena (args.zip params ++ [(out, result)]))
      fun failure _ => arena.Discord (args.zip params ++ [(out, result)]) failure := by
  obtain ⟨hparams, hresult⟩ := Ty.closed_fn.mp hfn
  obtain ⟨depth, hdepth, htypes, _⟩ :=
    Arena.exists_depth arena [.fn params result, .fn (args.map .var) (.var out)]
  have hfnHeight := htypes (.fn params result) List.mem_cons_self
  obtain ⟨hheights, hheight⟩ :=
    Ty.height_fn_le_iff.mp (Nat.le_trans hfnHeight (Nat.le_succ depth))
  refine Ends.congr (unify_eq hs) ?_
  rw [hdepth]
  refine Ends.bind (query_at hs (Arena.resolve_of_ne_var arena (by simp))) ?_
  rintro _ s₁ ⟨rfl, hs₁⟩
  refine Ends.bind (query_at hs₁ (Arena.resolve_of_ne_var arena (by simp))) ?_
  rintro _ s₂ ⟨rfl, hs₂⟩
  refine Ends.bind (write_at hs₂ _ _) ?_
  intro _ s₃ hs₃
  simp only [List.length_map, ne_eq, hlength, not_true_eq_false, if_false, zip_site,
    List.forM_eq_forM, List.forM_map]
  have hpairs : ∀ pair ∈ args.zip params,
      arena.Owns pair.1 ∧ pair.2.Closed ∧ pair.2.height ≤ depth := by
    intro pair hpair
    obtain ⟨harg, hparam⟩ := List.of_mem_zip hpair
    exact ⟨hargs _ harg, hparams _ hparam, hheights _ hparam⟩
  have hall := learnAll (args.zip params) hs₃ hclosed hpairs
  rw [List.forM_eq_forM] at hall
  refine Ends.bind (hall.mono (fun _ _ h => h) fun _ _ h => h.append _) ?_
  rintro _ s₄ ⟨arena₄, hs₄, hlearned⟩
  have hclosed₄ := hlearned.closed hclosed fun pair hpair => (hpairs pair hpair).2.1
  refine ((learn hs₄ hclosed₄ (hlearned.owns.mpr hout) hresult hheight).2).mono ?_
    fun _ _ h => hlearned.discord h
  rintro _ s₅ ⟨arena₅, hs₅, hlearned'⟩
  exact ⟨arena₅, hs₅, hlearned.append hlearned'⟩

theorem refuse_site {reason : Ty → Ty → InferenceError} {callee : Ty} {args : List TypeVar}
    {out : TypeVar} {bad : Failure → Prop} (hs : session.At arena) (hclosed : arena.Closed)
    (hcallee : callee.Closed) (hargs : ∀ arg ∈ args, arena.Owns arg) (hout : arena.Owns out)
    (hbad : bad (.error (reason callee (.fn (args.map arena.known) (arena.known out))))) :
    Ends (refuse reason callee (.fn (args.map .var) (.var out))) session (fun _ _ => False)
      fun failure _ => bad failure := by
  refine Ends.bind (query_at hs (Arena.apply_closed arena hcallee)) ?_
  rintro _ s₁ ⟨rfl, hs₁⟩
  refine Ends.bind (query_at hs₁ (Arena.apply_site hclosed hargs hout)) ?_
  rintro _ s₂ ⟨rfl, _⟩
  exact Ends.throw hbad

/-- A call of anything else is refused. The mark is reported only if the callee has this type or
if it stands in what is known about the site. -/
theorem unify_call_refused {callee : Ty} {args : List TypeVar} {out : TypeVar}
    (hs : session.At arena) (hclosed : arena.Closed) (hcallee : callee.Closed)
    (hargs : ∀ arg ∈ args, arena.Owns arg) (hout : arena.Owns out)
    (hother : ∀ params result, callee = .fn params result → params.length ≠ args.length) :
    Ends (unify callee (.fn (args.map .var) (.var out))) session (fun _ _ => False)
      fun failure _ => Refusal failure ∧
        (callee ≠ .unresolvable → (∀ v ∈ out :: args, arena.Clean v) → failure.Unmarked) := by
  obtain ⟨depth, hdepth, _⟩ :=
    Arena.exists_depth arena [callee, .fn (args.map .var) (.var out)]
  refine Ends.congr (unify_eq hs) ?_
  rw [hdepth]
  refine Ends.bind (query_at hs (Arena.resolve_of_ne_var arena hcallee.ne_var)) ?_
  rintro _ s₁ ⟨rfl, hs₁⟩
  refine Ends.bind (query_at hs₁ (Arena.resolve_of_ne_var arena (by simp))) ?_
  rintro _ s₂ ⟨rfl, hs₂⟩
  refine Ends.bind (write_at hs₂ _ _) ?_
  intro _ s₃ hs₃
  have hsite : (∀ v ∈ out :: args, arena.Clean v) →
      (Ty.fn (args.map arena.known) (arena.known out)).mentionsUnresolvable = false := by
    intro hclean
    refine Ty.mentionsUnresolvable_fn.mpr ⟨fun p hp => ?_, (hclean out List.mem_cons_self).known⟩
    obtain ⟨arg, harg, rfl⟩ := List.mem_map.mp hp
    exact (hclean arg (List.mem_cons_of_mem _ harg)).known
  cases callee with
  | var w => exact absurd hcallee (Ty.not_closed_var w)
  | absent => exact absurd hcallee Ty.not_closed_absent
  | fn params result =>
    have hlength := hother params result rfl
    simp only [List.length_map, ne_eq, hlength, not_false_eq_true, if_true]
    refine refuse_site hs₃ hclosed hcallee hargs hout ⟨⟨_, rfl, Or.inr rfl⟩, ?_⟩
    intro _ _ l r h
    cases h
  | unresolvable =>
    exact refuse_site hs₃ hclosed hcallee hargs hout
      ⟨⟨_, rfl, Or.inl rfl⟩, fun hne => absurd rfl hne⟩
  | name m =>
    refine refuse_site hs₃ hclosed hcallee hargs hout ⟨⟨_, rfl, Or.inl rfl⟩, ?_⟩
    intro _ hclean l r h
    cases h
    exact ⟨rfl, hsite hclean⟩

end Unifier

end Typeflow
