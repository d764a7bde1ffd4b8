import Typeflow.Checker.Basic
import Typeflow.Proofs.Arena.Learning

/-!
What the relations of a run say, without a schedule. A fact gives a variable a type. The functions
of the table give the first facts; a relation whose awaited variable has a fact gives further
ones. The facts are consistent if no variable has two types and every callee with a type can be
called. The last part says what a solver may know on its way: facts only, and all that the
relations it has removed say.
-/

namespace Typeflow

/-- The least set of facts that holds the signatures of the functions and is closed under the
relations. -/
inductive Fact (checker : Checker) : TypeVar → Ty → Prop
  | builtin {name : Identifier} {signature : Signature} {v : TypeVar} :
      .function name signature ∈ checker.table.symbols →
      checker.varOf (.function name signature) = .ok v → Fact checker v signature.toTy
  | equated {target other : TypeVar} {targetSymbol otherSymbol : Symbol}
      {statement : Statement} {ty : Ty} :
      .equates target other targetSymbol otherSymbol statement ∈ checker.relations →
      Fact checker other ty → Fact checker target ty
  | argument {callee result arg : TypeVar} {args : List TypeVar} {params : List Ty}
      {out param : Ty} :
      .applies callee args result ∈ checker.relations → Fact checker callee (.fn params out) →
      params.length = args.length → (arg, param) ∈ args.zip params → Fact checker arg param
  | result {callee result : TypeVar} {args : List TypeVar} {params : List Ty} {out : Ty} :
      .applies callee args result ∈ checker.relations → Fact checker callee (.fn params out) →
      params.length = args.length → Fact checker result out

/-- No variable has two types, and what is called is a function with as many parameters as there
are arguments. -/
structure Consistent (checker : Checker) : Prop where
  unique : ∀ v ty ty', Fact checker v ty → Fact checker v ty' → ty = ty'
  callable : ∀ callee args result ty, .applies callee args result ∈ checker.relations →
    Fact checker callee ty → ∃ params out, ty = .fn params out ∧ params.length = args.length

namespace Relation

/-- What a relation says once its awaited variable has a type; `none` if the type does not fit. -/
def teaches : Relation → Ty → Option (List (TypeVar × Ty))
  | .equates target _ _ _ _, ty => some [(target, ty)]
  | .applies _ args result, .fn params out =>
    if params.length = args.length then some (args.zip params ++ [(result, out)]) else none
  | .applies .., _ => none

def vars : Relation → List TypeVar
  | .equates target other _ _ _ => [target, other]
  | .applies callee args result => callee :: result :: args

theorem teaches_applies {callee result : TypeVar} {args : List TypeVar} {ty : Ty}
    {pairs : List (TypeVar × Ty)} :
    (Relation.applies callee args result).teaches ty = some pairs ↔
      ∃ params out, ty = .fn params out ∧ params.length = args.length ∧
        pairs = args.zip params ++ [(result, out)] := by
  cases ty with
  | fn params out =>
    simp only [teaches, Ty.fn.injEq]
    split
    · rename_i hlength
      constructor
      · intro h
        cases h
        exact ⟨params, out, ⟨rfl, rfl⟩, hlength, rfl⟩
      · rintro ⟨_, _, ⟨rfl, rfl⟩, _, rfl⟩
        rfl
    · rename_i hlength
      constructor
      · intro h
        cases h
      · rintro ⟨_, _, ⟨rfl, rfl⟩, hlength', _⟩
        exact absurd hlength' hlength
  | _ => simp [teaches]

theorem teaches_parts {relation : Relation} {ty : Ty} {pairs : List (TypeVar × Ty)}
    {P : Ty → Prop} (hparts : ∀ {params out}, P (.fn params out) → (∀ p ∈ params, P p) ∧ P out)
    (hty : P ty)
    (h : relation.teaches ty = some pairs) : ∀ pair ∈ pairs, P pair.2 := by
  cases relation with
  | equates target other _ _ _ =>
    cases h
    simpa using hty
  | applies callee args result =>
    obtain ⟨params, out, rfl, _, rfl⟩ := teaches_applies.mp h
    obtain ⟨hparams, hout⟩ := hparts hty
    intro pair hpair
    rcases List.mem_append.mp hpair with hpair | hpair
    · exact hparams _ (List.of_mem_zip hpair).2
    · rw [List.mem_singleton.mp hpair]
      exact hout

theorem teaches_closed {relation : Relation} {ty : Ty} {pairs : List (TypeVar × Ty)}
    (hty : ty.Closed) (h : relation.teaches ty = some pairs) : ∀ pair ∈ pairs, pair.2.Closed :=
  teaches_parts Ty.closed_fn.mp hty h

theorem teaches_ground {relation : Relation} {ty : Ty} {pairs : List (TypeVar × Ty)}
    (hty : ty.Ground) (h : relation.teaches ty = some pairs) : ∀ pair ∈ pairs, pair.2.Ground :=
  teaches_parts Ty.ground_fn.mp hty h

end Relation

variable {checker : Checker} {relation : Relation} {ty : Ty}

theorem Fact.teaches {pairs : List (TypeVar × Ty)} (hmem : relation ∈ checker.relations)
    (hfact : Fact checker relation.waitsOn ty) (h : relation.teaches ty = some pairs) :
    ∀ pair ∈ pairs, Fact checker pair.1 pair.2 := by
  intro pair hpair
  cases relation with
  | equates target other _ _ _ =>
    cases h
    rw [List.mem_singleton.mp hpair]
    exact Fact.equated hmem hfact
  | applies callee args result =>
    obtain ⟨params, out, rfl, hlength, rfl⟩ := Relation.teaches_applies.mp h
    rcases List.mem_append.mp hpair with hpair | hpair
    · exact Fact.argument hmem hfact hlength hpair
    · rw [List.mem_singleton.mp hpair]
      exact Fact.result hmem hfact hlength

/-- What holds of the signatures and passes from a function type to its parts holds of all
facts. -/
theorem Fact.hereditary {v : TypeVar} {P : Ty → Prop}
    (hparts : ∀ {params out}, P (.fn params out) → (∀ p ∈ params, P p) ∧ P out)
    (hsignatures : ∀ name signature, .function name signature ∈ checker.table.symbols →
      P signature.toTy)
    (h : Fact checker v ty) : P ty := by
  induction h with
  | builtin hmem _ => exact hsignatures _ _ hmem
  | equated _ _ ih => exact ih
  | argument _ _ _ hpair ih => exact (hparts ih).1 _ (List.of_mem_zip hpair).2
  | result _ _ _ ih => exact (hparts ih).2

/-- A type that does not fit an awaiting relation is that of a callee. -/
theorem not_consistent_of_teaches_none (hmem : relation ∈ checker.relations)
    (hfact : Fact checker relation.waitsOn ty) (h : relation.teaches ty = none) :
    ¬ Consistent checker := by
  intro hconsistent
  cases relation with
  | equates target other _ _ _ => cases h
  | applies callee args result =>
    obtain ⟨params, out, rfl, hlength⟩ := hconsistent.callable callee args result ty hmem hfact
    simp [Relation.teaches, hlength] at h

/-- The relation waits for a variable that has no fact. -/
def Blocked (checker : Checker) (relation : Relation) : Prop :=
  ∀ ty, ¬ Fact checker relation.waitsOn ty

open Classical in
/-- The relations that wait for a variable without a fact, in order. -/
noncomputable def blockedRelations (checker : Checker) : List Relation :=
  checker.relations.filter fun relation => decide (Blocked checker relation)

/-- The awaited variable is known, and so is all that the relation says then. -/
def Relation.Settled (relation : Relation) (arena : Arena) : Prop :=
  ∃ ty pairs, arena.entry relation.waitsOn = some ty ∧ relation.teaches ty = some pairs ∧
    ∀ pair ∈ pairs, arena.entry pair.1 = some pair.2

open Classical in
/-- What holds between two steps of the solver: it knows facts only, among them the signatures,
and every relation it has removed is settled. -/
structure Progress (checker : Checker) (relations : List Relation) (arena : Arena) : Prop where
  ground : arena.Ground
  size_eq : arena.size = checker.arena.size
  sound : ∀ v ty, arena.entry v = some ty → Fact checker v ty
  seeded : ∀ name signature v, .function name signature ∈ checker.table.symbols →
    checker.varOf (.function name signature) = .ok v → arena.entry v = some signature.toTy
  mem : ∀ relation ∈ relations, relation ∈ checker.relations
  settled : ∀ relation ∈ checker.relations, relation ∈ relations ∨ relation.Settled arena
  blocked : relations.filter (fun relation => decide (Blocked checker relation)) =
    blockedRelations checker

namespace Progress

variable {relations : List Relation} {arena arena' : Arena} {pairs : List (TypeVar × Ty)}

theorem learned_mono {v : TypeVar} (hlearned : arena.Learned pairs arena')
    (h : arena.entry v = some ty) : arena'.entry v = some ty :=
  (hlearned.entry_iff v ty).mpr (Or.inl h)

theorem resolve {before after : List Relation}
    (h : Progress checker (before ++ relation :: after) arena)
    (hentry : arena.entry relation.waitsOn = some ty)
    (hteaches : relation.teaches ty = some pairs) (hlearned : arena.Learned pairs arena') :
    Progress checker (before ++ after) arena' := by
  have hmem : relation ∈ checker.relations := h.mem relation (by simp)
  have hfacts := Fact.teaches hmem (h.sound _ _ hentry) hteaches
  have hknown : ∀ pair ∈ pairs, arena'.entry pair.1 = some pair.2 :=
    fun pair hpair => (hlearned.entry_iff _ _).mpr (Or.inr hpair)
  have hself : relation.Settled arena' :=
    ⟨ty, pairs, learned_mono hlearned hentry, hteaches, hknown⟩
  refine ⟨?_, hlearned.size_eq.trans h.size_eq, ?_, ?_, ?_, ?_, ?_⟩
  · exact hlearned.ground h.ground (Relation.teaches_ground (h.ground _ _ hentry) hteaches)
  · intro v u hu
    rcases (hlearned.entry_iff v u).mp hu with hold | hpair
    · exact h.sound v u hold
    · exact hfacts _ hpair
  · intro name signature v hsymbol hvar
    exact learned_mono hlearned (h.seeded name signature v hsymbol hvar)
  · intro other hother
    refine h.mem other ?_
    rcases List.mem_append.mp hother with hother | hother
    · exact List.mem_append_left _ hother
    · exact List.mem_append_right _ (List.mem_cons_of_mem _ hother)
  · intro other hother
    rcases h.settled other hother with hpending | ⟨u, taught, hu, htaught, hall⟩
    · rcases List.mem_append.mp hpending with hbefore | hafter
      · exact Or.inl (List.mem_append_left _ hbefore)
      · rcases List.mem_cons.mp hafter with rfl | hafter
        · exact Or.inr hself
        · exact Or.inl (List.mem_append_right _ hafter)
    · exact Or.inr ⟨u, taught, learned_mono hlearned hu, htaught,
        fun pair hpair => learned_mono hlearned (hall pair hpair)⟩
  · have hfree : ¬ Blocked checker relation := fun hblocked => hblocked ty (h.sound _ _ hentry)
    rw [← h.blocked]
    simp [List.filter_append, hfree]

/-- A relation that cannot be resolved although its awaited variable is known is a conflict of
facts. -/
theorem not_consistent (h : Progress checker relations arena) (hmem : relation ∈ relations)
    (hentry : arena.entry relation.waitsOn = some ty)
    (hfail : relation.teaches ty = none ∨
      ∃ pairs, relation.teaches ty = some pairs ∧ arena.Clash pairs) :
    ¬ Consistent checker := by
  have hfact := h.sound _ _ hentry
  rcases hfail with hnone | ⟨pairs, hteaches, v, u, u', hu, hu', hne⟩
  · exact not_consistent_of_teaches_none (h.mem relation hmem) hfact hnone
  · have hfacts := Fact.teaches (h.mem relation hmem) hfact hteaches
    have htold : ∀ w t, arena.Says pairs w t → Fact checker w t := by
      rintro w t (hold | hpair)
      · exact h.sound w t hold
      · exact hfacts _ hpair
    exact fun hconsistent => hne (hconsistent.unique v u u' (htold v u hu) (htold v u' hu'))

/-- When every remaining relation waits for an unbound variable, all facts are known. -/
theorem entry_of_fact (h : Progress checker relations arena)
    (hstop : ∀ relation ∈ relations, arena.entry relation.waitsOn = none) {v : TypeVar}
    (hfact : Fact checker v ty) : arena.entry v = some ty := by
  have hsettled : ∀ {relation : Relation} {u : Ty}, relation ∈ checker.relations →
      arena.entry relation.waitsOn = some u →
      ∃ pairs, relation.teaches u = some pairs ∧
        ∀ pair ∈ pairs, arena.entry pair.1 = some pair.2 := by
    intro relation u hmem hu
    rcases h.settled relation hmem with hpending | ⟨u', pairs, hu', hteaches, hall⟩
    · rw [hstop relation hpending] at hu
      cases hu
    · rw [hu] at hu'
      cases hu'
      exact ⟨pairs, hteaches, hall⟩
  induction hfact with
  | builtin hsymbol hvar => exact h.seeded _ _ _ hsymbol hvar
  | equated hmem _ ih =>
    obtain ⟨pairs, hteaches, hall⟩ := hsettled hmem ih
    cases hteaches
    exact hall _ List.mem_cons_self
  | argument hmem _ hlength hpair ih =>
    obtain ⟨pairs, hteaches, hall⟩ := hsettled hmem ih
    simp only [Relation.teaches, hlength, if_true, Option.some.injEq] at hteaches
    subst hteaches
    exact hall _ (List.mem_append_left _ hpair)
  | result hmem _ hlength ih =>
    obtain ⟨pairs, hteaches, hall⟩ := hsettled hmem ih
    simp only [Relation.teaches, hlength, if_true, Option.some.injEq] at hteaches
    subst hteaches
    exact hall _ (List.mem_append_right _ List.mem_cons_self)

theorem consistent (h : Progress checker relations arena)
    (hstop : ∀ relation ∈ relations, arena.entry relation.waitsOn = none) :
    Consistent checker := by
  constructor
  · intro v u u' hu hu'
    have hknown := h.entry_of_fact hstop hu
    rw [h.entry_of_fact hstop hu'] at hknown
    exact (Option.some.inj hknown).symm
  · intro callee args result u hmem hu
    have hknown := h.entry_of_fact hstop hu
    rcases h.settled _ hmem with hpending | ⟨u', pairs, hu', hteaches, _⟩
    · have hnone := hstop _ hpending
      simp only [Relation.waitsOn] at hnone
      rw [hknown] at hnone
      cases hnone
    · simp only [Relation.waitsOn] at hu'
      rw [hknown] at hu'
      cases hu'
      obtain ⟨params, out, rfl, hlength, _⟩ := Relation.teaches_applies.mp hteaches
      exact ⟨params, out, rfl, hlength⟩

theorem relations_eq (h : Progress checker relations arena)
    (hstop : ∀ relation ∈ relations, arena.entry relation.waitsOn = none) :
    relations = blockedRelations checker := by
  classical
  rw [← h.blocked, eq_comm, List.filter_eq_self]
  intro relation hmem
  rw [decide_eq_true_iff]
  intro u hu
  have hknown := h.entry_of_fact hstop hu
  rw [hstop relation hmem] at hknown
  cases hknown

end Progress

end Typeflow
