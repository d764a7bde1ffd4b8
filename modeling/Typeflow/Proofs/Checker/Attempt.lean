import Typeflow.Checker.Solve
import Typeflow.Proofs.Checker.Facts

/-!
One attempt of the solver on an arena of closed types. It leaves everything as it is while the
awaited variable of the relation is unbound, or while the unresolvable mark stands where it would
have to be unified. Otherwise the arena learns what the relation says, or the run fails because
that contradicts what is known.
-/

namespace Typeflow

/-- The type cannot be called: it is unresolvable or one of its parameters is. -/
def Ty.Uncallable : Ty → Prop
  | .unresolvable => True
  | .fn params _ => ∃ p ∈ params, p.mentionsUnresolvable = true
  | _ => False

namespace Relation

variable {relation : Relation} {arena arena' : Arena}

/-- The mark stands where the relation would have to unify it. -/
def Stuck (relation : Relation) (arena : Arena) : Prop :=
  match relation with
  | .equates _ other _ _ _ => ¬ arena.Clean other
  | .applies callee args _ =>
    (∃ ty, arena.entry callee = some ty ∧ ty.Uncallable) ∨ ∃ arg ∈ args, ¬ arena.Clean arg

/-- The arena does not know enough for the relation, or it knows that nothing will come of it. -/
def Idle (relation : Relation) (arena : Arena) : Prop :=
  arena.entry relation.waitsOn = none ∨ relation.Stuck arena

/-- What is known stays known, so a relation that is stuck is never resolved. -/
theorem Stuck.learned {pairs : List (TypeVar × Ty)} (h : relation.Stuck arena)
    (hlearned : arena.Learned pairs arena') : relation.Stuck arena' := by
  have hclean : ∀ {v}, ¬ arena.Clean v → ¬ arena'.Clean v := by
    intro v hmarked hclean
    exact hmarked fun ty hty => hclean ty ((hlearned.entry_iff v ty).mpr (Or.inl hty))
  cases relation with
  | equates target other _ _ _ => exact hclean h
  | applies callee args result =>
    rcases h with ⟨ty, hty, huncallable⟩ | ⟨arg, harg, hmarked⟩
    · exact Or.inl ⟨ty, (hlearned.entry_iff callee ty).mpr (Or.inl hty), huncallable⟩
    · exact Or.inr ⟨arg, harg, hclean hmarked⟩

theorem not_stuck (hground : arena.Ground) : ¬ relation.Stuck arena := by
  have hclean : ∀ v, arena.Clean v := fun v ty hty => (hground v ty hty).2
  intro hstuck
  cases relation with
  | equates target other _ _ _ => exact hstuck (hclean other)
  | applies callee args result =>
    rcases hstuck with ⟨ty, hty, huncallable⟩ | ⟨arg, _, hmarked⟩
    · have hcallee := hground callee ty hty
      cases ty with
      | unresolvable => exact absurd hcallee.2 (by simp [Ty.mentionsUnresolvable])
      | fn params out =>
        obtain ⟨p, hp, hmarked⟩ := huncallable
        rw [((Ty.ground_fn.mp hcallee).1 p hp).2] at hmarked
        cases hmarked
      | _ => exact huncallable
    · exact hmarked (hclean arg)

theorem Idle.unbound (h : relation.Idle arena) (hground : arena.Ground) :
    arena.entry relation.waitsOn = none :=
  h.resolve_right (not_stuck hground)

/-- Why an attempt to resolve a relation fails. An assignment meets a target that is known by
another type; a call meets a callee that does not fit, or it gives a variable a type that does not
agree with what is known. -/
def Fails (relation : Relation) (arena : Arena) (failure : Failure) : Prop :=
  ∃ ty, arena.entry relation.waitsOn = some ty ∧ ¬ relation.Stuck arena ∧
    match relation with
    | .equates target _ targetSymbol otherSymbol statement =>
      ∃ known cause, arena.entry target = some known ∧ Ty.Differ known ty (.error cause) ∧
        failure = .error (.conflicting targetSymbol otherSymbol known ty statement cause)
    | .applies callee args result =>
      (teaches (.applies callee args result) ty = none ∧ Refusal failure ∧
        (arena.Clean result → failure.Unmarked)) ∨
      ∃ pairs, teaches (.applies callee args result) ty = some pairs ∧ arena.Discord pairs failure

end Relation

/-- How solving fails: two types did not compare, by themselves or as the ground types of the two
symbols of an assignment. -/
def SolverError (failure : Failure) : Prop :=
  Refusal failure ∨
    ∃ target other left right statement cause,
      failure = .error (.conflicting target other left right statement cause) ∧
      left.Ground ∧ right.Ground ∧ left ≠ right ∧ Refusal (.error cause)

/-- The run has this table, these relations and this arena, and its trace accepts all writes. -/
structure Checker.At (checker : Checker) (table : SymbolTable) (relations : List Relation)
    (arena : Arena) : Prop where
  session : checker.session.At arena
  table_eq : checker.table = table
  relations_eq : checker.relations = relations

theorem attempt_ends {σ α : Type} {action : EStateM Failure σ α} {s : σ}
    {good : α → σ → Prop} {bad : Failure → σ → Prop} (h : Ends action s good bad) :
    Ends (attempt action) s
      (fun outcome s' => match outcome with
        | .ok value => good value s'
        | .error error => bad (.error error) s')
      fun failure s' => (∃ fault, failure = .fault fault) ∧ bad failure s' := by
  cases haction : action s with
  | ok value s' =>
    exact Ends.of_eq_ok (by unfold attempt; rw [haction]) (h.good_of_eq haction)
  | error failure s' =>
    cases failure with
    | error error =>
      exact Ends.of_eq_ok (by unfold attempt; rw [haction]) (h.bad_of_eq haction)
    | fault fault =>
      exact Ends.of_eq_error (by unfold attempt; rw [haction]) ⟨⟨fault, rfl⟩, h.bad_of_eq haction⟩

namespace CheckerM

variable {α : Type} {checker : Checker} {table : SymbolTable} {relations : List Relation}
  {arena arena' : Arena} {bad : Failure → Checker → Prop}

theorem unifier_ends {action : Unifier α} {good : α → Session → Prop}
    {bad : Failure → Session → Prop} (h : Ends action checker.session good bad) :
    Ends (unifier action) checker
      (fun value c' => good value c'.session ∧ c'.table = checker.table ∧
        c'.relations = checker.relations)
      fun failure c' => bad failure c'.session := by
  unfold Ends unifier
  cases haction : action checker.session with
  | ok value session => exact ⟨h.good_of_eq haction, rfl, rfl⟩
  | error failure session => exact h.bad_of_eq haction

theorem query_at {ask : Query α} {value : α} (hc : checker.At table relations arena)
    (hask : ask arena = .ok value arena') :
    Ends (query ask) checker
      (fun answer c' => value = answer ∧ c'.At table relations arena') bad := by
  have hquery : Ends (Unifier.query ask) checker.session
      (fun answer s' => value = answer ∧ s'.At arena') fun _ _ => False :=
    Unifier.query_at hc.session hask
  refine (unifier_ends hquery).mono ?_ fun _ _ h => h.elim
  rintro answer c' ⟨⟨hvalue, hsession⟩, htable, hrelations⟩
  exact ⟨hvalue, hsession, htable.trans hc.table_eq, hrelations.trans hc.relations_eq⟩

theorem write_at (hc : checker.At table relations arena) (channel : Channel) (line : Text) :
    Ends (write channel line) checker (fun _ c' => c'.At table relations arena) bad := by
  have hwrite : Ends (Unifier.write channel line) checker.session
      (fun _ s' => s'.At arena) fun _ _ => False := Unifier.write_at hc.session channel line
  refine (unifier_ends hwrite).mono ?_ fun _ _ h => h.elim
  rintro _ c' ⟨hsession, htable, hrelations⟩
  exact ⟨hsession, htable.trans hc.table_eq, hrelations.trans hc.relations_eq⟩

theorem learns_at {action : Unifier α} {pairs : List (TypeVar × Ty)}
    {bad : Failure → Session → Prop} (hc : checker.At table relations arena)
    (h : Ends action checker.session (fun _ s' => s'.Learns arena pairs) bad) :
    Ends (unifier action) checker
      (fun _ c' => ∃ arena', arena.Learned pairs arena' ∧ c'.At table relations arena')
      fun failure c' => bad failure c'.session := by
  refine (unifier_ends h).mono ?_ fun _ _ hbad => hbad
  rintro _ c' ⟨⟨arena', hsession, hlearned⟩, htable, hrelations⟩
  exact ⟨arena', hlearned, hsession, htable.trans hc.table_eq, hrelations.trans hc.relations_eq⟩

/-- How an attempt to resolve a relation ends when it does not fail. -/
def Tried (relation : Relation) (table : SymbolTable) (relations : List Relation)
    (arena : Arena) (done : Bool) (checker : Checker) : Prop :=
  if done then
    ∃ ty pairs arena', arena.entry relation.waitsOn = some ty ∧ ¬ relation.Stuck arena ∧
      relation.teaches ty = some pairs ∧ arena.Learned pairs arena' ∧
      checker.At table relations arena'
  else relation.Idle arena ∧ checker.At table relations arena

theorem tryEquate_ends {target other : TypeVar} {targetSymbol otherSymbol : Symbol}
    {statement : Statement} (hc : checker.At table relations arena) (hclosed : arena.Closed)
    (htarget : arena.Owns target) (hother : arena.Owns other) (relation : Relation)
    (hrelation : relation = .equates target other targetSymbol otherSymbol statement) :
    Ends (tryEquate relation target other targetSymbol otherSymbol statement) checker
      (Tried relation table relations arena) fun failure _ => relation.Fails arena failure := by
  subst hrelation
  unfold tryEquate
  cases hentry : arena.entry other with
  | none =>
    refine Ends.bind (query_at hc (Arena.isBound_unbound hother hentry)) ?_
    rintro _ c₁ ⟨rfl, hc₁⟩
    exact Ends.pure ⟨Or.inl hentry, hc₁⟩
  | some ty =>
    have hty := hclosed other ty hentry
    refine Ends.bind (query_at hc (Arena.isBound_direct hentry hty.ne_var)) ?_
    rintro _ c₁ ⟨rfl, hc₁⟩
    refine Ends.bind (query_at hc₁ (Arena.resolve_direct hentry hty.ne_var)) ?_
    rintro _ c₂ ⟨rfl, hc₂⟩
    refine Ends.bind (query_at hc₂ (Arena.unresolvable_closed arena hty)) ?_
    rintro _ c₃ ⟨rfl, hc₃⟩
    cases hmarked : ty.mentionsUnresolvable with
    | true =>
      refine Ends.pure ⟨Or.inr fun hclean => ?_, hc₃⟩
      rw [hclean ty hentry] at hmarked
      cases hmarked
    | false =>
      have hfree : ¬ Relation.Stuck (.equates target other targetSymbol otherSymbol statement)
          arena := by
        intro hstuck
        refine hstuck fun u hu => ?_
        rw [hentry] at hu
        cases hu
        exact hmarked
      cases htentry : arena.entry target with
      | none =>
        refine Ends.bind (query_at hc₃ (Arena.isBound_unbound htarget htentry)) ?_
        rintro _ c₄ ⟨rfl, hc₄⟩
        refine Ends.bind (write_at hc₄ _ _) ?_
        intro _ c₅ hc₅
        have hlearn := learns_at hc₅ (Unifier.unify_var hc₅.session hclosed htarget hty)
        refine Ends.bind (hlearn.mono (fun _ _ h => h) ?_) ?_
        · -- The target has no entry that the new type could differ from.
          intro failure c' hdiscord
          obtain ⟨known, hknown, _⟩ := Arena.discord_singleton.mp hdiscord
          rw [htentry] at hknown
          cases hknown
        · rintro _ c₆ ⟨arena', hlearned, hc₆⟩
          exact Ends.pure ⟨ty, _, arena', hentry, hfree, rfl, hlearned, hc₆⟩
      | some known =>
        have hknown := hclosed target known htentry
        refine Ends.bind (query_at hc₃ (Arena.isBound_direct htentry hknown.ne_var)) ?_
        rintro _ c₄ ⟨rfl, hc₄⟩
        refine Ends.bind (query_at hc₄ (Arena.resolve_direct htentry hknown.ne_var)) ?_
        rintro _ c₅ ⟨rfl, hc₅⟩
        have hcompare :=
          attempt_ends (unifier_ends (Unifier.unify_closed hc₅.session hknown hty))
        refine Ends.bind (hcompare.mono (fun _ _ h => h) ?_) ?_
        · -- Only a fault is not caught here, and comparing closed types does not raise one.
          rintro _ c' ⟨⟨fault, rfl⟩, _, ⟨_, herror, _⟩, _⟩
          cases herror
        · intro outcome c₆ houtcome
          cases outcome with
          | ok _ =>
            obtain ⟨⟨hsession, rfl, _⟩, htable, hrelations⟩ := houtcome
            have hc₆ : c₆.At table relations arena :=
              ⟨hsession, htable.trans hc₅.table_eq, hrelations.trans hc₅.relations_eq⟩
            refine Ends.bind (write_at hc₆ _ _) ?_
            intro _ c₇ hc₇
            exact Ends.pure ⟨known, _, arena, hentry, hfree, rfl, Arena.learned_known htentry,
              hc₇⟩
          | error cause =>
            obtain ⟨hsession, hdiffer⟩ := houtcome
            have hc₆ : c₆.At c₆.table c₆.relations arena := ⟨hsession, rfl, rfl⟩
            refine Ends.bind (query_at hc₆ (Arena.apply_closed arena hknown)) ?_
            rintro _ c₇ ⟨rfl, hc₇⟩
            refine Ends.bind (query_at hc₇ (Arena.apply_closed arena hty)) ?_
            rintro _ c₈ ⟨rfl, hc₈⟩
            exact Ends.throw ⟨ty, hentry, hfree, known, cause, htentry, hdiffer, rfl⟩

theorem cannotApply_closed {callee : Ty} (hc : checker.At table relations arena)
    (hcallee : callee.Closed) :
    Ends (cannotApply callee) checker
      (fun answer c' => (answer = true ↔ callee.Uncallable) ∧ c'.At table relations arena)
      bad := by
  cases callee with
  | fn params result =>
    have hany := Ends.anyM_eq_ok fun p hp =>
      Arena.unresolvable_closed arena ((Ty.closed_fn.mp hcallee).1 p hp)
    refine (query_at hc hany).mono ?_ fun _ _ h => h
    rintro _ c' ⟨rfl, hc'⟩
    exact ⟨List.any_eq_true, hc'⟩
  | unresolvable => exact Ends.pure ⟨by simp [Ty.Uncallable], hc⟩
  | _ => exact Ends.pure ⟨by simp [Ty.Uncallable], hc⟩

theorem args_marked {args : List TypeVar} (hc : checker.At table relations arena)
    (hclosed : arena.Closed) (hargs : ∀ arg ∈ args, arena.Owns arg) :
    Ends (query (args.anyM fun arg => Arena.unresolvable (.var arg))) checker
      (fun answer c' => (answer = true ↔ ∃ arg ∈ args, ¬ arena.Clean arg) ∧
        c'.At table relations arena) bad := by
  have hmarked : ∀ v, ((arena.entry v).getD (.var v)).mentionsUnresolvable = true ↔
      ¬ arena.Clean v := by
    intro v
    cases hentry : arena.entry v with
    | none => simp [Arena.Clean, hentry, Ty.mentionsUnresolvable]
    | some ty => simp [Arena.Clean, hentry]
  have hany := Ends.anyM_eq_ok fun arg harg => Arena.unresolvable_var hclosed (hargs arg harg)
  refine (query_at hc hany).mono ?_ fun _ _ h => h
  rintro _ c' ⟨rfl, hc'⟩
  refine ⟨?_, hc'⟩
  simp only [List.any_eq_true, hmarked]

theorem tryApply_ends {callee : TypeVar} {args : List TypeVar} {result : TypeVar}
    (hc : checker.At table relations arena) (hclosed : arena.Closed)
    (hcallee : arena.Owns callee) (hargs : ∀ arg ∈ args, arena.Owns arg)
    (hresult : arena.Owns result) (relation : Relation)
    (hrelation : relation = .applies callee args result) :
    Ends (tryApply relation callee args result) checker
      (Tried relation table relations arena) fun failure _ => relation.Fails arena failure := by
  subst hrelation
  unfold tryApply
  cases hentry : arena.entry callee with
  | none =>
    refine Ends.bind (query_at hc (Arena.isBound_unbound hcallee hentry)) ?_
    rintro _ c₁ ⟨rfl, hc₁⟩
    exact Ends.pure ⟨Or.inl hentry, hc₁⟩
  | some ty =>
    have hty := hclosed callee ty hentry
    refine Ends.bind (query_at hc (Arena.isBound_direct hentry hty.ne_var)) ?_
    rintro _ c₁ ⟨rfl, hc₁⟩
    refine Ends.bind (query_at hc₁ (Arena.resolve_direct hentry hty.ne_var)) ?_
    rintro _ c₂ ⟨rfl, hc₂⟩
    refine Ends.bind (cannotApply_closed hc₂ hty) ?_
    rintro uncallable c₃ ⟨huncallable, hc₃⟩
    cases uncallable with
    | true => exact Ends.pure ⟨Or.inr (Or.inl ⟨ty, hentry, huncallable.mp rfl⟩), hc₃⟩
    | false =>
      refine Ends.bind (args_marked hc₃ hclosed hargs) ?_
      rintro marked c₄ ⟨hmarked, hc₄⟩
      cases marked with
      | true => exact Ends.pure ⟨Or.inr (Or.inr (hmarked.mp rfl)), hc₄⟩
      | false =>
        have hcallable : ¬ ty.Uncallable := fun h => Bool.false_ne_true (huncallable.mpr h)
        have hclean : ∀ arg ∈ args, arena.Clean arg := by
          intro arg harg
          refine Classical.byContradiction fun hnot => ?_
          exact Bool.false_ne_true (hmarked.mpr ⟨arg, harg, hnot⟩)
        have hfree : ¬ Relation.Stuck (.applies callee args result) arena := by
          rintro (⟨u, hu, huncallable⟩ | ⟨arg, harg, hnot⟩)
          · rw [hentry] at hu
            cases hu
            exact hcallable huncallable
          · exact hnot (hclean arg harg)
        refine Ends.bind (write_at hc₄ _ _) ?_
        intro _ c₅ hc₅
        cases hteaches : Relation.teaches (.applies callee args result) ty with
        | none =>
          have hother : ∀ params out, ty = .fn params out → params.length ≠ args.length := by
            rintro params out rfl hlength
            simp [Relation.teaches, hlength] at hteaches
          have hcall := unifier_ends
            (Unifier.unify_call_refused hc₅.session hclosed hty hargs hresult hother)
          refine Ends.bind (hcall.mono (fun _ _ h => h) ?_) fun _ _ h => h.1.elim
          rintro failure _ ⟨hrefusal, hunmarked⟩
          refine ⟨ty, hentry, hfree, Or.inl ⟨hteaches, hrefusal, fun hout => hunmarked ?_ ?_⟩⟩
          · rintro rfl
            exact hcallable trivial
          · exact List.forall_mem_cons.mpr ⟨hout, hclean⟩
        | some pairs =>
          obtain ⟨params, out, rfl, hlength, rfl⟩ := Relation.teaches_applies.mp hteaches
          have hcall := learns_at hc₅
            (Unifier.unify_call hc₅.session hclosed hargs hresult hty hlength)
          refine Ends.bind (hcall.mono (fun _ _ h => h) fun _ _ hdiscord =>
            ⟨_, hentry, hfree, Or.inr ⟨_, hteaches, hdiscord⟩⟩) ?_
          rintro _ c₆ ⟨arena', hlearned, hc₆⟩
          exact Ends.pure ⟨_, _, arena', hentry, hfree, hteaches, hlearned, hc₆⟩

theorem tryResolve_ends (hc : checker.At table relations arena) (hclosed : arena.Closed)
    (relation : Relation) (howns : ∀ v ∈ relation.vars, arena.Owns v) :
    Ends (tryResolve relation) checker (Tried relation table relations arena)
      fun failure _ => relation.Fails arena failure := by
  cases relation with
  | equates target other targetSymbol otherSymbol statement =>
    exact tryEquate_ends hc hclosed (howns target (by simp [Relation.vars]))
      (howns other (by simp [Relation.vars])) _ rfl
  | applies callee args result =>
    exact tryApply_ends hc hclosed (howns callee (by simp [Relation.vars]))
      (fun arg harg => howns arg (by simp [Relation.vars, harg]))
      (howns result (by simp [Relation.vars])) _ rfl

end CheckerM

end Typeflow
