import Typeflow.Proofs.Arena.Rejection
import Typeflow.Proofs.Checker.Solving

/-!
One attempt of the solver in any well-formed arena, whatever types it holds. A relation waits as
long as the type of its awaited variable is open, or the unresolvable mark stands where it would
have to be unified; then the attempt changes nothing about what the arena means. Otherwise it
makes the two sides of the relation equal, or it fails with an error.
-/

namespace Typeflow

namespace Relation

/-- The two types that the relation makes equal. -/
def sides : Relation → Ty × Ty
  | .equates target other _ _ _ => (.var target, .var other)
  | .applies callee args result => (.var callee, .fn (args.map .var) (.var result))

/-- The two sides of the relation are equal in the arena. -/
def Holds (relation : Relation) (arena : Arena) : Prop :=
  relation.sides.1.subst arena.solved = relation.sides.2.subst arena.solved

/-- The arena does not know enough to resolve the relation. -/
def Waits (relation : Relation) (arena : Arena) : Prop :=
  match relation with
  | .equates _ other _ _ _ =>
    (∃ w, arena.solved other = .var w) ∨ (arena.solved other).mentionsUnresolvable = true
  | .applies callee args _ =>
    (∃ w, arena.solved callee = .var w) ∨ (arena.solved callee).Uncallable ∨
      ∃ arg ∈ args, (arena.solved arg).mentionsUnresolvable = true

theorem sides_over {relation : Relation} {arena : Arena}
    (h : ∀ v ∈ relation.vars, arena.Owns v) :
    relation.sides.1.Over arena ∧ relation.sides.2.Over arena := by
  have hvar : ∀ {v}, v ∈ relation.vars → (Ty.var v).Over arena :=
    fun hv w hw => Ty.mem_vars_var.mp hw ▸ h _ hv
  cases relation with
  | equates target other _ _ _ => exact ⟨hvar (by simp [vars]), hvar (by simp [vars])⟩
  | applies callee args result =>
    refine ⟨hvar (by simp [vars]), fun w hw => ?_⟩
    rcases Ty.mem_vars_fn.mp hw with ⟨p, hp, hw⟩ | hw
    · obtain ⟨arg, harg, rfl⟩ := List.mem_map.mp hp
      exact hvar (by simp [vars, harg]) w hw
    · exact hvar (by simp [vars]) w hw

theorem sides_nilFree (relation : Relation) :
    relation.sides.1.nilFree = true ∧ relation.sides.2.nilFree = true := by
  cases relation with
  | equates => exact ⟨rfl, rfl⟩
  | applies callee args result =>
    refine ⟨rfl, Ty.nilFree_fn.mpr ⟨fun p hp => ?_, rfl⟩⟩
    obtain ⟨arg, _, rfl⟩ := List.mem_map.mp hp
    rfl

theorem Holds.grows {relation : Relation} {arena arena' : Arena} (h : relation.Holds arena)
    (hwf : arena.WellFormed) (hgrows : arena.Grows arena') : relation.Holds arena' :=
  hgrows.subst_eq hwf h

theorem waits_congr {relation : Relation} {arena arena' : Arena} (h : arena.Same arena') :
    relation.Waits arena' ↔ relation.Waits arena := by
  unfold Waits
  rw [h.solved_eq]

end Relation

namespace Checker

/-- The second state means the same as the first and takes what the first takes. -/
structure Alike (checker checker' : Checker) : Prop where
  session : checker.session.Alike checker'.session
  table_eq : checker'.table = checker.table
  relations_eq : checker'.relations = checker.relations

/-- The second state knows at least what the first knows, and it has the same table and
relations. -/
structure Advances (checker checker' : Checker) : Prop where
  grows : checker.arena.Grows checker'.arena
  table_eq : checker'.table = checker.table
  relations_eq : checker'.relations = checker.relations

/-- How a run goes on: nothing is forgotten, and what the trace took it still takes. -/
structure Continues (checker checker' : Checker) : Prop extends checker.Advances checker' where
  accepting : checker.session.trace.Accepting → checker'.session.trace.Accepting

/-- The failures that can be met: the errors of the engine, and a trace that is full. -/
def Fails (checker : Checker) (failure : Failure) : Prop :=
  (∃ error, failure = .error error) ∨
    failure = .fault .traceFull ∧ ¬ checker.session.trace.Accepting

def Stops (checker : Checker) (failure : Failure) (checker' : Checker) : Prop :=
  checker.Advances checker' ∧ checker.Fails failure

variable {checker c₁ c₂ : Checker} {failure : Failure}

theorem Alike.trans (h : checker.Alike c₁) (h' : c₁.Alike c₂) : checker.Alike c₂ :=
  ⟨h.session.trans h'.session, h'.table_eq.trans h.table_eq, h'.relations_eq.trans h.relations_eq⟩

theorem Alike.wellFormed (h : checker.Alike c₁) : c₁.arena.WellFormed := h.session.same.wellFormed

theorem Alike.refl (hwf : checker.arena.WellFormed) : checker.Alike checker :=
  ⟨⟨Arena.Same.refl hwf, fun hs => hs⟩, rfl, rfl⟩

theorem Advances.trans (h : checker.Advances c₁) (h' : c₁.Advances c₂) : checker.Advances c₂ :=
  ⟨h.grows.trans h'.grows, h'.table_eq.trans h.table_eq, h'.relations_eq.trans h.relations_eq⟩

theorem Alike.continues (hwf : checker.arena.WellFormed) (h : checker.Alike c₁) :
    checker.Continues c₁ :=
  ⟨⟨h.session.same.grows hwf, h.table_eq, h.relations_eq⟩, h.session.accepting⟩

theorem Continues.trans (h : checker.Continues c₁) (h' : c₁.Continues c₂) :
    checker.Continues c₂ :=
  ⟨h.toAdvances.trans h'.toAdvances, fun hs => h'.accepting (h.accepting hs)⟩

theorem Continues.fails (h : checker.Continues c₁) (hfails : c₁.Fails failure) :
    checker.Fails failure :=
  hfails.imp id fun hfull => ⟨hfull.1, fun hs => hfull.2 (h.accepting hs)⟩

theorem Continues.stops (h : checker.Continues c₁) (hstops : c₁.Stops failure c₂) :
    checker.Stops failure c₂ :=
  ⟨h.toAdvances.trans hstops.1, h.fails hstops.2⟩

/-- How an attempt to resolve a relation ends when it does not fail. -/
def Attempts (checker : Checker) (relation : Relation) (done : Bool) (checker' : Checker) :
    Prop :=
  if done then
    ¬ relation.Waits checker.arena ∧ checker.Continues checker' ∧ relation.Holds checker'.arena
  else relation.Waits checker.arena ∧ checker.Alike checker'

/-- How it fails: the relation did not have to wait. -/
def Rejects (checker : Checker) (relation : Relation) (failure : Failure) (checker' : Checker) :
    Prop :=
  ¬ relation.Waits checker.arena ∧ checker.Stops failure checker'

theorem Continues.rejects {relation : Relation} (h : checker.Continues c₁)
    (hready : ¬ relation.Waits checker.arena) (failure : Failure) (c₂ : Checker)
    (hstops : c₁.Stops failure c₂) : checker.Rejects relation failure c₂ :=
  ⟨hready, h.stops hstops⟩

end Checker

namespace CheckerM

variable {α : Type} {checker c₁ : Checker} {bad : Failure → Checker → Prop}

theorem unifier_frames {action : Unifier α} {good : α → Session → Prop}
    {bad : Failure → Session → Prop} (h : Ends action checker.session good bad) :
    Ends (unifier action) checker
      (fun value c' => good value c'.session ∧ c' = { checker with session := c'.session })
      fun failure c' => bad failure c'.session ∧
        c' = { checker with session := c'.session } := by
  unfold Ends unifier
  cases haction : action checker.session with
  | ok value session => exact ⟨h.good_of_eq haction, rfl⟩
  | error failure session => exact ⟨h.bad_of_eq haction, rfl⟩

theorem query_alike {ask : Query α} {holds : α → Prop} (hc : checker.Alike c₁)
    (h : Ends ask c₁.arena (fun answer arena' => holds answer ∧ c₁.arena.Same arena')
      fun _ _ => False) :
    Ends (query ask) c₁ (fun answer c' => holds answer ∧ checker.Alike c') bad := by
  have hquery : Ends (Unifier.query ask) c₁.session
      (fun answer s' => holds answer ∧ c₁.session.Alike s') fun _ _ => False :=
    Unifier.query_alike h
  refine (unifier_frames hquery).mono ?_ fun _ _ h => h.1.elim
  rintro answer c' ⟨⟨hholds, halike⟩, hframe⟩
  rw [hframe]
  exact ⟨hholds, hc.trans ⟨halike, rfl, rfl⟩⟩

theorem write_alike (hwf : checker.arena.WellFormed) (channel : Channel) (line : Text) :
    Ends (write channel line) checker (fun _ c' => checker.Alike c') checker.Stops := by
  refine (unifier_frames (Unifier.write_alike hwf channel line |>.and
    (Unifier.write_arena channel line checker.session))).mono ?_ ?_
  · rintro _ c' ⟨⟨⟨halike, _⟩, _⟩, hframe⟩
    rw [hframe]
    exact ⟨halike, rfl, rfl⟩
  · rintro _ c' ⟨⟨⟨rfl, hfull⟩, harena⟩, hframe⟩
    rw [hframe]
    refine ⟨⟨?_, rfl, rfl⟩, Or.inr ⟨rfl, hfull⟩⟩
    show checker.arena.Grows c'.session.arena
    rw [harena]
    exact Arena.Grows.refl hwf

theorem unify_continues {left right : Ty} (hwf : checker.arena.WellFormed)
    (hleft : left.Over checker.arena) (hright : right.Over checker.arena)
    (hleftNil : left.nilFree = true) (hrightNil : right.nilFree = true) :
    Ends (unifier (Unifier.unify left right)) checker
      (fun _ c' => checker.Continues c' ∧
        left.subst c'.arena.solved = right.subst c'.arena.solved) checker.Stops := by
  have hunify := (Unifier.unify_ends hwf left right).and
    (Unifier.unify_rejects hwf hleft hright hleftNil hrightNil)
  refine (unifier_frames hunify).mono ?_ ?_
  · rintro _ c' ⟨⟨hunified, haccepting⟩, hframe⟩
    rw [hframe]
    refine ⟨⟨⟨hunified.grows, rfl, rfl⟩, haccepting⟩, ?_⟩
    exact ((hunified.satisfies_iff _).mp hunified.grows.wellFormed.satisfies_solved).2
  · rintro failure c' ⟨⟨hgrows, hrejection⟩, hframe⟩
    rw [hframe]
    refine ⟨⟨hgrows, rfl, rfl⟩, ?_⟩
    cases hrejection with
    | clash | self => exact Or.inl ⟨_, rfl⟩
    | traceFull hfull => exact Or.inr ⟨rfl, hfull⟩

/-- The type that a variable resolves to is one over the arena, without empty places. -/
theorem resolve_alike {v : TypeVar} (hwf : checker.arena.WellFormed) (hv : checker.arena.Owns v)
    (hc : checker.Alike c₁) :
    Ends (query (Arena.resolve (.var v))) c₁
      (fun resolved c' => (checker.arena.Resolved (.var v) resolved ∧
        resolved.Over checker.arena ∧ resolved.nilFree = true) ∧ checker.Alike c') bad := by
  have hsame := hc.session.same
  have hvar : ∀ w, Ty.var v = .var w → c₁.arena.Owns w := by
    intro w hw
    cases hw
    exact hsame.owns_iff.mpr hv
  refine query_alike hc ((Arena.resolve_total hsame.wellFormed hvar).mono ?_ fun _ _ h => h)
  rintro resolved arena' ⟨hsame', hresolved⟩
  have hresolved := (hsame.resolved_iff hwf).mp hresolved
  refine ⟨⟨hresolved, hresolved.over_iff.mpr ?_, hresolved.nilFree_eq⟩, hsame'⟩
  exact fun w hw => Ty.mem_vars_var.mp hw ▸ hv

theorem isBound_alike {v : TypeVar} (hv : checker.arena.Owns v) (hc : checker.Alike c₁) :
    Ends (query (Arena.isBound v)) c₁
      (fun answer c' => (answer = true ↔ ∀ w, checker.arena.solved v ≠ .var w) ∧
        checker.Alike c') bad := by
  have hsame := hc.session.same
  have hbound := Arena.isBound_total hsame.wellFormed (hsame.owns_iff.mpr hv)
  rw [hsame.solved_eq] at hbound
  exact query_alike hc hbound

theorem anyUnresolvable_alike {β : Type} (f : β → Ty) (xs : List β) (hc : checker.Alike c₁)
    (hover : ∀ x ∈ xs, (f x).Over checker.arena) (hnil : ∀ x ∈ xs, (f x).nilFree = true) :
    Ends (query (xs.anyM fun x => Arena.unresolvable (f x))) c₁
      (fun answer c' => (answer = true ↔
        ∃ x ∈ xs, ((f x).subst checker.arena.solved).mentionsUnresolvable = true) ∧
        checker.Alike c') bad := by
  have hsame := hc.session.same
  have hany := Arena.anyUnresolvable_total hsame.wellFormed f xs
    (fun x hx => hsame.over_iff.mpr (hover x hx)) hnil
  rw [hsame.solved_eq] at hany
  exact query_alike hc hany

theorem unresolvable_alike {ty : Ty} (hc : checker.Alike c₁) (hover : ty.Over checker.arena)
    (hnil : ty.nilFree = true) :
    Ends (query (Arena.unresolvable ty)) c₁
      (fun answer c' => (answer = true ↔
        (ty.subst checker.arena.solved).mentionsUnresolvable = true) ∧ checker.Alike c') bad := by
  have hsame := hc.session.same
  have hmark := Arena.unresolvable_total hsame.wellFormed (hsame.over_iff.mpr hover) hnil
  rw [hsame.solved_eq] at hmark
  exact query_alike hc hmark

/-- Two types are made equal, and thereby the sides of the relation. -/
theorem resolveBy_sound {relation : Relation} {left right : Ty} (hwf : checker.arena.WellFormed)
    (hc : checker.Alike c₁) (hready : ¬ relation.Waits checker.arena)
    (hleft : left.Over checker.arena) (hright : right.Over checker.arena)
    (hleftNil : left.nilFree = true) (hrightNil : right.nilFree = true)
    (hholds : ∀ arena', checker.arena.Grows arena' →
      left.subst arena'.solved = right.subst arena'.solved → relation.Holds arena')
    (line : Text) :
    Ends (do
        write .solver line
        unifier (Unifier.unify left right)
        return true) c₁ (checker.Attempts relation) (checker.Rejects relation) := by
  refine Ends.bind ((write_alike hc.wellFormed _ _).mono (fun _ _ h => h)
    ((hc.continues hwf).rejects hready)) ?_
  intro _ c₂ halike
  have h₂ := hc.trans halike
  have hsame := h₂.session.same
  refine Ends.bind ((unify_continues h₂.wellFormed (hsame.over_iff.mpr hleft)
    (hsame.over_iff.mpr hright) hleftNil hrightNil).mono (fun _ _ h => h)
    ((h₂.continues hwf).rejects hready)) ?_
  rintro _ c₃ ⟨hcontinues, hequal⟩
  have h₃ := (h₂.continues hwf).trans hcontinues
  exact Ends.pure ⟨hready, h₃, hholds _ h₃.grows hequal⟩

theorem tryEquate_sound {target other : TypeVar} {targetSymbol otherSymbol : Symbol}
    {statement : Statement} (hwf : checker.arena.WellFormed) {relation : Relation}
    (hrelation : relation = .equates target other targetSymbol otherSymbol statement)
    (howns : ∀ v ∈ relation.vars, checker.arena.Owns v) :
    Ends (tryEquate relation target other targetSymbol otherSymbol statement) checker
      (checker.Attempts relation) (checker.Rejects relation) := by
  subst hrelation
  have htarget := howns target (by simp [Relation.vars])
  have hother := howns other (by simp [Relation.vars])
  refine Ends.bind (isBound_alike hother (Checker.Alike.refl hwf)) ?_
  rintro bound c₁ ⟨hbound, h₁⟩
  cases bound with
  | false =>
    have hopen : ∃ w, checker.arena.solved other = .var w := by simpa using hbound
    exact Ends.pure ⟨Or.inl hopen, h₁⟩
  | true =>
    refine Ends.bind (resolve_alike hwf hother h₁) ?_
    rintro otherType c₂ ⟨⟨hresolved, hover, hnil⟩, h₂⟩
    refine Ends.bind (unresolvable_alike h₂ hover hnil) ?_
    rintro marked c₃ ⟨hmarked, h₃⟩
    rw [← hresolved.subst_eq, Ty.subst_var] at hmarked
    cases marked with
    | true => exact Ends.pure ⟨Or.inr (hmarked.mp rfl), h₃⟩
    | false =>
      have hready : ¬ Relation.Waits
          (.equates target other targetSymbol otherSymbol statement) checker.arena := by
        rintro (⟨w, hw⟩ | hmark)
        · exact hbound.mp rfl w hw
        · exact Bool.false_ne_true (hmarked.mpr hmark)
      refine Ends.bind (isBound_alike htarget h₃) ?_
      rintro known c₄ ⟨_, h₄⟩
      cases known with
      | false =>
        refine resolveBy_sound hwf h₄ hready (Relation.sides_over howns).1 hover rfl hnil ?_ _
        intro arena' hgrows hequal
        exact hequal.trans (hresolved.subst_of_grows hwf hgrows).symm
      | true =>
        refine Ends.bind (resolve_alike hwf htarget h₄) ?_
        rintro targetType c₅ ⟨⟨hresolved', hover', hnil'⟩, h₅⟩
        have hsame := h₅.session.same
        have hcompare := attempt_ends (unify_continues h₅.wellFormed (hsame.over_iff.mpr hover')
          (hsame.over_iff.mpr hover) hnil' hnil)
        refine Ends.bind (hcompare.mono (fun _ _ h => h)
          fun _ _ h => (h₅.continues hwf).rejects hready _ _ h.2) ?_
        intro outcome c₆ houtcome
        cases outcome with
        | ok _ =>
          obtain ⟨hcontinues, hequal⟩ := houtcome
          have h₆ := (h₅.continues hwf).trans hcontinues
          refine Ends.bind ((write_alike h₆.grows.wellFormed _ _).mono (fun _ _ h => h)
            (h₆.rejects hready)) ?_
          intro _ c₇ halike
          have h₇ := h₆.trans (halike.continues h₆.grows.wellFormed)
          refine Ends.pure ⟨hready, h₇, Relation.Holds.grows ?_ h₆.grows.wellFormed
            (halike.continues h₆.grows.wellFormed).grows⟩
          calc (Ty.var target).subst c₆.arena.solved
              = targetType.subst c₆.arena.solved := hresolved'.subst_of_grows hwf h₆.grows
            _ = otherType.subst c₆.arena.solved := hequal
            _ = (Ty.var other).subst c₆.arena.solved :=
                (hresolved.subst_of_grows hwf h₆.grows).symm
        | error cause =>
          have h₆ := ((h₅.continues hwf).stops houtcome).1
          have hwf₆ := h₆.grows.wellFormed
          refine Ends.bind (query_alike (Checker.Alike.refl hwf₆)
            (Arena.apply_ends hwf₆ (h₆.grows.owned hover'))) ?_
          rintro _ c₇ ⟨_, h₇⟩
          refine Ends.bind (query_alike h₇ (Arena.apply_ends h₇.wellFormed
            (h₇.session.same.over_iff.mpr (h₆.grows.owned hover)))) ?_
          rintro _ c₈ ⟨_, h₈⟩
          exact Ends.throw ⟨hready, h₆.trans (h₈.continues hwf₆).toAdvances, Or.inl ⟨_, rfl⟩⟩

theorem cannotApply_alike {callee : Ty} (hc : checker.Alike c₁)
    (hover : callee.Over checker.arena) (hnil : callee.nilFree = true)
    (hcallee : ∀ w, callee ≠ .var w) :
    Ends (cannotApply callee) c₁
      (fun answer c' => (answer = true ↔ (callee.subst checker.arena.solved).Uncallable) ∧
        checker.Alike c') bad := by
  cases callee with
  | fn params result =>
    have hparams := (Ty.nilFree_fn.mp hnil).1
    refine (anyUnresolvable_alike id params hc
      (fun p hp w hw => hover w (Ty.mem_vars_fn.mpr (Or.inl ⟨p, hp, hw⟩))) hparams).mono ?_
      fun _ _ h => h
    rintro answer c' ⟨hanswer, hc'⟩
    refine ⟨hanswer.trans ?_, hc'⟩
    simp [Ty.Uncallable]
  | var w => exact absurd rfl (hcallee w)
  | unresolvable => exact Ends.pure ⟨by simp [Ty.Uncallable], hc⟩
  | _ => exact Ends.pure ⟨by simp [Ty.Uncallable], hc⟩

theorem tryApply_sound {callee : TypeVar} {args : List TypeVar} {result : TypeVar}
    (hwf : checker.arena.WellFormed) {relation : Relation}
    (hrelation : relation = .applies callee args result)
    (howns : ∀ v ∈ relation.vars, checker.arena.Owns v) :
    Ends (tryApply relation callee args result) checker (checker.Attempts relation)
      (checker.Rejects relation) := by
  subst hrelation
  have hcallee := howns callee (by simp [Relation.vars])
  have hargs : ∀ arg ∈ args, checker.arena.Owns arg :=
    fun arg harg => howns arg (by simp [Relation.vars, harg])
  refine Ends.bind (isBound_alike hcallee (Checker.Alike.refl hwf)) ?_
  rintro bound c₁ ⟨hbound, h₁⟩
  cases bound with
  | false =>
    have hopen : ∃ w, checker.arena.solved callee = .var w := by simpa using hbound
    exact Ends.pure ⟨Or.inl hopen, h₁⟩
  | true =>
    refine Ends.bind (resolve_alike hwf hcallee h₁) ?_
    rintro calleeType c₂ ⟨⟨hresolved, hover, hnil⟩, h₂⟩
    have hsolved : checker.arena.solved callee = calleeType.subst checker.arena.solved :=
      hresolved.subst_eq
    have hnotVar : ∀ w, calleeType ≠ .var w := by
      rintro w rfl
      rw [Ty.subst_var, Arena.solved_unbound (hresolved.unbound w rfl).2] at hsolved
      exact hbound.mp rfl w hsolved
    refine Ends.bind (cannotApply_alike h₂ hover hnil hnotVar) ?_
    rintro uncallable c₃ ⟨huncallable, h₃⟩
    rw [← hsolved] at huncallable
    cases uncallable with
    | true => exact Ends.pure ⟨Or.inr (Or.inl (huncallable.mp rfl)), h₃⟩
    | false =>
      refine Ends.bind (anyUnresolvable_alike Ty.var args h₃
        (fun arg harg w hw => Ty.mem_vars_var.mp hw ▸ hargs arg harg) fun _ _ => rfl) ?_
      rintro marked c₄ ⟨hmarked, h₄⟩
      cases marked with
      | true => exact Ends.pure ⟨Or.inr (Or.inr (hmarked.mp rfl)), h₄⟩
      | false =>
        have hready : ¬ Relation.Waits (.applies callee args result) checker.arena := by
          rintro (⟨w, hw⟩ | hmark | hmark)
          · exact hbound.mp rfl w hw
          · exact Bool.false_ne_true (huncallable.mpr hmark)
          · exact Bool.false_ne_true (hmarked.mpr hmark)
        refine resolveBy_sound hwf h₄ hready hover (Relation.sides_over howns).2 hnil
          (Relation.sides_nilFree (.applies callee args result)).2 ?_ _
        intro arena' hgrows hequal
        exact (hresolved.subst_of_grows hwf hgrows).trans hequal

/-- An attempt leaves a relation that waits as it is; any other relation is made true, or the
attempt stops the run. -/
theorem tryResolve_sound (hwf : checker.arena.WellFormed) (relation : Relation)
    (howns : ∀ v ∈ relation.vars, checker.arena.Owns v) :
    Ends (tryResolve relation) checker (checker.Attempts relation)
      (checker.Rejects relation) := by
  cases relation with
  | equates => exact tryEquate_sound hwf rfl howns
  | applies => exact tryApply_sound hwf rfl howns

end CheckerM

end Typeflow
