import Typeflow.Proofs.Checker.Attempt
import Typeflow.Proofs.Checker.Registry

/-!
The rounds of the solver. First the functions are bound to their signatures, then one relation
after another is resolved and removed: each time the first one that is not idle. Whatever such a
step keeps holds when the run stops, and then every remaining relation is idle. Among ground types
`Progress` is kept; the remaining relations wait for unbound variables, and the run fails only if
the facts are not consistent.
-/

namespace Typeflow

namespace CheckerM

variable {checker : Checker} {table : SymbolTable} {relations : List Relation}
  {arena arena' : Arena}

theorem removeRelation_eq {before after : List Relation} {relation : Relation}
    (h : checker.relations = before ++ relation :: after) :
    removeRelation before.length checker =
      .ok () { checker with relations := before ++ after } := by
  apply Ends.eq_ok
  refine Ends.get_bind ?_
  rw [h, removeAt_append]
  exact Ends.of_eq_ok rfl ⟨rfl, rfl⟩

/-- The search passes over idle relations and finds the place of the first other one. -/
theorem resolveFirst_ends (hc : checker.At table relations arena) (hclosed : arena.Closed)
    (candidates : List Relation)
    (howns : ∀ relation ∈ candidates, ∀ v ∈ relation.vars, arena.Owns v) :
    Ends (resolveFirst candidates) checker
      (fun found c' => match found with
        | none => (∀ relation ∈ candidates, relation.Idle arena) ∧ c'.At table relations arena
        | some place => ∃ before relation after, candidates = before ++ relation :: after ∧
            place = before.length ∧ (∀ other ∈ before, other.Idle arena) ∧
            Tried relation table relations arena true c')
      fun failure _ => ∃ relation ∈ candidates, relation.Fails arena failure := by
  induction candidates generalizing checker with
  | nil => exact Ends.pure ⟨by simp, hc⟩
  | cons first rest ih =>
    obtain ⟨hfirst, hrest⟩ := List.forall_mem_cons.mp howns
    have htry := tryResolve_ends hc hclosed first hfirst
    refine Ends.bind (htry.mono (fun _ _ h => h) fun _ _ h => ⟨first, List.mem_cons_self, h⟩) ?_
    intro done c₁ htried
    cases done with
    | true => exact Ends.pure ⟨[], first, rest, rfl, rfl, by simp, htried⟩
    | false =>
      obtain ⟨hidle, hc₁⟩ := htried
      refine Ends.bind ((ih hc₁ hrest).mono (fun _ _ h => h) ?_) ?_
      · rintro failure _ ⟨relation, hmem, hfails⟩
        exact ⟨relation, List.mem_cons_of_mem _ hmem, hfails⟩
      · intro found c₂ hfound
        cases found with
        | none => exact Ends.pure ⟨List.forall_mem_cons.mpr ⟨hidle, hfound.1⟩, hfound.2⟩
        | some place =>
          obtain ⟨before, relation, after, rfl, rfl, hbefore, htried⟩ := hfound
          exact Ends.pure ⟨first :: before, relation, after, rfl, rfl,
            List.forall_mem_cons.mpr ⟨hidle, hbefore⟩, htried⟩

/-- Something about the remaining relations and the arena that resolving a relation keeps, and
what it says about a failure. Those relations that stand before the resolved one are idle. -/
structure Invariant (holds : List Relation → Arena → Prop) (bad : Failure → Prop) : Prop where
  closed : ∀ {relations arena}, holds relations arena → arena.Closed
  owns : ∀ {relations arena}, holds relations arena →
    ∀ relation ∈ relations, ∀ v ∈ relation.vars, arena.Owns v
  step : ∀ {before relation after arena arena' ty pairs},
    holds (before ++ relation :: after) arena → (∀ other ∈ before, other.Idle arena) →
    arena.entry relation.waitsOn = some ty → ¬ relation.Stuck arena →
    relation.teaches ty = some pairs → arena.Learned pairs arena' → holds (before ++ after) arena'
  fails : ∀ {relations relation arena failure}, holds relations arena → relation ∈ relations →
    relation.Fails arena failure → bad failure

section Rounds

variable {holds : List Relation → Arena → Prop} {bad : Failure → Prop}
  (hinvariant : Invariant holds bad)
include hinvariant

theorem resolveNext_ends (hholds : holds relations arena)
    (hc : checker.At table relations arena) :
    Ends resolveNext checker
      (fun done c' => if done then
          ∃ rest arena', rest.length + 1 = relations.length ∧ holds rest arena' ∧
            c'.At table rest arena'
        else (∀ relation ∈ relations, relation.Idle arena) ∧ c'.At table relations arena)
      fun failure _ => bad failure := by
  refine Ends.get_bind ?_
  rw [hc.relations_eq]
  have hfirst := resolveFirst_ends hc (hinvariant.closed hholds) relations
    (hinvariant.owns hholds)
  refine Ends.bind (hfirst.mono (fun _ _ h => h) ?_) ?_
  · rintro failure _ ⟨relation, hmem, hfails⟩
    exact hinvariant.fails hholds hmem hfails
  · intro found c₁ hfound
    cases found with
    | none => exact Ends.pure hfound
    | some place =>
      obtain ⟨before, relation, after, rfl, rfl, hbefore, htried⟩ := hfound
      obtain ⟨ty, pairs, arena', hentry, hfree, hteaches, hlearned, hc₁⟩ := htried
      refine Ends.bind_of_ok (removeRelation_eq hc₁.relations_eq)
        (Ends.pure ⟨before ++ after, arena', ?_, ?_, ?_⟩)
      · simp
        omega
      · exact hinvariant.step hholds hbefore hentry hfree hteaches hlearned
      · exact ⟨hc₁.session, hc₁.table_eq, rfl⟩

/-- As many rounds as there are relations lead to a state in which none can be resolved. -/
theorem resolveAll_ends (rounds round : Nat) (hrounds : relations.length ≤ rounds)
    (hholds : holds relations arena) (hc : checker.At table relations arena) :
    Ends (resolveAll rounds round) checker
      (fun _ c' => ∃ rest arena', holds rest arena' ∧ c'.At table rest arena' ∧
        ∀ relation ∈ rest, relation.Idle arena')
      fun failure _ => bad failure := by
  induction rounds generalizing round relations arena checker with
  | zero =>
    obtain rfl : relations = [] := List.length_eq_zero_iff.mp (by omega)
    exact Ends.pure ⟨[], arena, hholds, hc, by simp⟩
  | succ rounds ih =>
    refine Ends.bind (resolveNext_ends hinvariant hholds hc) ?_
    intro done c₁ hdone
    cases done with
    | false => exact Ends.pure ⟨relations, arena, hholds, hdone.2, hdone.1⟩
    | true =>
      -- A round removes one relation, so the rounds left are enough for the relations left.
      obtain ⟨rest, arena', hlength, hholds', hc₁⟩ := hdone
      refine Ends.bind (write_at hc₁ _ _) ?_
      intro _ c₂ hc₂
      refine Ends.get_bind (Ends.bind (write_at hc₂ _ _) ?_)
      intro _ c₃ hc₃
      refine Ends.get_bind (Ends.bind (write_at hc₃ _ _) ?_)
      intro _ c₄ hc₄
      exact ih (round + 1) (by omega) hholds' hc₄

/-- A whole run keeps what its rounds keep, if it holds once the functions are bound. -/
theorem solve_ends_of_seeded (hc : checker.At table relations arena)
    (hseed : ∀ c : Checker, c.At table relations arena →
      Ends (table.symbols.forM bindFunction) c
        (fun _ c' => ∃ arena', holds relations arena' ∧ c'.At table relations arena')
        fun failure _ => bad failure) :
    Ends solve checker
      (fun _ c' => ∃ rest arena', holds rest arena' ∧ c'.At table rest arena' ∧
        ∀ relation ∈ rest, relation.Idle arena')
      fun failure _ => bad failure := by
  refine Ends.bind (write_at hc _ _) ?_
  intro _ c₁ hc₁
  refine Ends.get_bind ?_
  rw [hc₁.table_eq]
  refine Ends.bind (hseed c₁ hc₁) ?_
  rintro _ c₂ ⟨arena₂, hholds, hc₂⟩
  refine Ends.get_bind ?_
  rw [hc₂.relations_eq]
  refine Ends.bind (resolveAll_ends hinvariant _ 0 (Nat.le_refl _) hholds hc₂) ?_
  rintro _ c₃ ⟨rest, arena₃, hholds', hc₃, hidle⟩
  refine Ends.get_bind ?_
  dsimp only
  split
  · exact Ends.pure ⟨rest, arena₃, hholds', hc₃, hidle⟩
  · exact (write_at hc₃ _ _).mono (fun _ _ hc₄ => ⟨rest, arena₃, hholds', hc₄, hidle⟩)
      fun _ _ h => h

end Rounds

theorem varOf_eq {symbol : Symbol} {v : TypeVar} (hv : checker.varOf symbol = .ok v) :
    varOf symbol checker = .ok v checker := by
  apply Ends.eq_ok
  refine Ends.get_bind ?_
  rw [hv]
  exact Ends.pure ⟨rfl, rfl⟩

end CheckerM

namespace Checker

theorem exists_varOf {checker : Checker} {symbol : Symbol}
    (hmem : symbol ∈ checker.table.symbols) :
    ∃ n : Nat, n < checker.table.size ∧ checker.varOf symbol = .ok ⟨n⟩ := by
  have hlt := SymbolTable.var_lt (SymbolTable.name_mem hmem)
  exact ⟨_, by simpa [SymbolTable.var] using hlt, varOf_eq hmem⟩

end Checker

/-- A failed attempt among ground types is an error of the solver and a conflict of facts. -/
theorem Progress.fails {start : Checker} {relations : List Relation} {relation : Relation}
    {arena : Arena} {failure : Failure} (h : Progress start relations arena)
    (hmem : relation ∈ relations) (hfails : relation.Fails arena failure) :
    SolverError failure ∧ ¬ Consistent start := by
  obtain ⟨ty, hentry, _, hcause⟩ := hfails
  have hty := h.ground _ _ hentry
  cases relation with
  | equates target other targetSymbol otherSymbol statement =>
    obtain ⟨known, cause, htarget, hdiffer, rfl⟩ := hcause
    have hknown := h.ground target known htarget
    have hne := hdiffer.ne hknown.2
    refine ⟨Or.inr ⟨_, _, _, _, _, _, rfl, hknown, hty, hne, hdiffer.refusal⟩, ?_⟩
    exact h.not_consistent hmem hentry
      (Or.inr ⟨_, rfl, target, known, ty, Or.inl htarget, Or.inr (by simp), hne⟩)
  | applies callee args result =>
    rcases hcause with ⟨hnone, hrefusal, _⟩ | ⟨pairs, hteaches, hdiscord⟩
    · exact ⟨Or.inl hrefusal, h.not_consistent hmem hentry (Or.inl hnone)⟩
    · obtain ⟨hrefusal, hclash⟩ := hdiscord.clash h.ground (Relation.teaches_ground hty hteaches)
      exact ⟨Or.inl hrefusal, h.not_consistent hmem hentry (Or.inr ⟨pairs, hteaches, hclash⟩)⟩

theorem Progress.invariant {start : Checker}
    (howns : ∀ relation ∈ start.relations, ∀ v ∈ relation.vars, start.arena.Owns v) :
    CheckerM.Invariant (Progress start) fun failure =>
      SolverError failure ∧ ¬ Consistent start where
  closed := fun h => h.ground.closed
  owns := by
    intro relations arena h relation hmem v hv
    have hv' := howns relation (h.mem relation hmem) v hv
    unfold Arena.Owns at hv' ⊢
    rw [h.size_eq]
    exact hv'
  step := fun h _ hentry _ hteaches hlearned => h.resolve hentry hteaches hlearned
  fails := fun h hmem hfails => h.fails hmem hfails

/-- What holds while the functions are bound: facts only are known, among them those of the start
and the signatures of all symbols but those still to come. -/
structure Seeding (checker : Checker) (symbols : List Symbol) (arena : Arena) : Prop where
  ground : arena.Ground
  size_eq : arena.size = checker.arena.size
  sound : ∀ v ty, arena.entry v = some ty → Fact checker v ty
  kept : ∀ v ty, checker.arena.entry v = some ty → arena.entry v = some ty
  mem : ∀ symbol ∈ symbols, symbol ∈ checker.table.symbols
  seeded : ∀ name signature v, .function name signature ∈ checker.table.symbols →
    checker.varOf (.function name signature) = .ok v →
    .function name signature ∈ symbols ∨ arena.entry v = some signature.toTy

namespace CheckerM

/-- The conditions under which the solver is run: only facts are known, the signatures are ground,
and all variables in use are variables of the arena. -/
structure Ready (start : Checker) : Prop where
  accepting : start.session.trace.Accepting
  ground : start.arena.Ground
  sound : ∀ v ty, start.arena.entry v = some ty → Fact start v ty
  signatures : ∀ name signature, .function name signature ∈ start.table.symbols →
    signature.toTy.Ground
  size_le : start.table.size ≤ start.arena.size
  owns : ∀ relation ∈ start.relations, ∀ v ∈ relation.vars, start.arena.Owns v

variable {start checker : Checker} {relations : List Relation} {arena : Arena}

theorem bindFunction_ends (hready : Ready start) {symbol : Symbol} {rest : List Symbol}
    (hseeding : Seeding start (symbol :: rest) arena)
    (hc : checker.At start.table relations arena) :
    Ends (bindFunction symbol) checker
      (fun _ c' => ∃ arena', Seeding start rest arena' ∧ c'.At start.table relations arena')
      fun failure _ => SolverError failure ∧ ¬ Consistent start := by
  have hother : (∀ name signature, symbol ≠ .function name signature) →
      Seeding start rest arena := by
    intro hne
    refine ⟨hseeding.ground, hseeding.size_eq, hseeding.sound, hseeding.kept,
      fun s hs => hseeding.mem s (List.mem_cons_of_mem _ hs), ?_⟩
    intro name signature v hmem hv
    rcases hseeding.seeded name signature v hmem hv with hcons | hentry
    · rcases List.mem_cons.mp hcons with heq | hrest
      · exact absurd heq.symm (hne name signature)
      · exact Or.inl hrest
    · exact Or.inr hentry
  cases symbol with
  | function name signature =>
    have hmem := hseeding.mem _ List.mem_cons_self
    have hsignature := hready.signatures name signature hmem
    obtain ⟨n, hn, hv⟩ := Checker.exists_varOf hmem
    have hfact : Fact start ⟨n⟩ signature.toTy := Fact.builtin hmem hv
    have howns : arena.Owns ⟨n⟩ := by
      have hsize := hready.size_le
      rw [Arena.owns_natCast, hseeding.size_eq]
      omega
    refine Ends.bind_of_ok (varOf_eq ((Checker.varOf_congr hc.table_eq _).trans hv)) ?_
    have hlearn := learns_at hc
      (Unifier.unify_var hc.session hseeding.ground.closed howns hsignature.1)
    have htold : ∀ w ty, arena.Says [(⟨n⟩, signature.toTy)] w ty → Fact start w ty := by
      rintro w ty (hentry | hpair)
      · exact hseeding.sound w ty hentry
      · simp only [List.mem_singleton, Prod.mk.injEq] at hpair
        rw [hpair.1, hpair.2]
        exact hfact
    refine hlearn.mono ?_ ?_
    · rintro _ c' ⟨arena', hlearned, hc'⟩
      refine ⟨arena', ⟨?_, ?_, ?_, ?_, ?_, ?_⟩, hc'⟩
      · exact hlearned.ground hseeding.ground (by simpa using hsignature)
      · exact hlearned.size_eq.trans hseeding.size_eq
      · exact fun w ty hty => htold w ty ((hlearned.entry_iff w ty).mp hty)
      · exact fun w ty hty => Progress.learned_mono hlearned (hseeding.kept w ty hty)
      · exact fun s hs => hseeding.mem s (List.mem_cons_of_mem _ hs)
      · intro name' signature' v hmem' hv'
        rcases hseeding.seeded name' signature' v hmem' hv' with hcons | hentry
        · rcases List.mem_cons.mp hcons with heq | hrest
          · cases heq
            rw [hv] at hv'
            cases hv'
            exact Or.inr ((hlearned.entry_iff _ _).mpr (Or.inr List.mem_cons_self))
          · exact Or.inl hrest
        · exact Or.inr ((hlearned.entry_iff _ _).mpr (Or.inl hentry))
    · intro failure _ hdiscord
      obtain ⟨hrefusal, v, ty, ty', hty, hty', hne⟩ :=
        hdiscord.clash hseeding.ground (by simpa using hsignature)
      refine ⟨Or.inl hrefusal, fun hconsistent => hne ?_⟩
      exact hconsistent.unique v ty ty' (htold v ty hty) (htold v ty' hty')
  | _ => exact Ends.pure ⟨arena, hother (by simp), hc⟩

open Classical in
/-- Solving ends in a state in which all facts are known, unless the facts are not consistent. Of
the relations that give the facts some may have been settled and removed earlier. -/
theorem solve_ends_of_settled (hready : Ready start)
    (hc : checker.At start.table relations start.arena)
    (hmem : ∀ relation ∈ relations, relation ∈ start.relations)
    (hsettled : ∀ relation ∈ start.relations,
      relation ∈ relations ∨ relation.Settled start.arena)
    (hblocked : relations.filter (fun relation => decide (Blocked start relation)) =
      blockedRelations start) :
    Ends solve checker
      (fun _ c' => ∃ rest arena, Progress start rest arena ∧ c'.At start.table rest arena ∧
        ∀ relation ∈ rest, arena.entry relation.waitsOn = none)
      fun failure _ => SolverError failure ∧ ¬ Consistent start := by
  have hseed : ∀ c : Checker, c.At start.table relations start.arena →
      Ends (start.table.symbols.forM bindFunction) c
        (fun _ c' => ∃ arena, Progress start relations arena ∧ c'.At start.table relations arena)
        fun failure _ => SolverError failure ∧ ¬ Consistent start := by
    intro c hc
    have hseeding : Seeding start start.table.symbols start.arena :=
      ⟨hready.ground, rfl, hready.sound, fun _ _ h => h, fun _ h => h, fun _ _ _ h _ => Or.inl h⟩
    refine (Ends.forM
      (fun symbols c => ∃ arena, Seeding start symbols arena ∧ c.At start.table relations arena)
      (fun symbol rest c ⟨arena, hseeding, hc⟩ => bindFunction_ends hready hseeding hc)
      start.table.symbols c ⟨start.arena, hseeding, hc⟩).mono ?_ fun _ _ h => h
    rintro _ c' ⟨arena, hseeding, hc'⟩
    refine ⟨arena, ⟨hseeding.ground, hseeding.size_eq, hseeding.sound, ?_, hmem, ?_, hblocked⟩,
      hc'⟩
    · intro name signature v hmem hv
      exact (hseeding.seeded name signature v hmem hv).resolve_left (by simp)
    · intro relation hrelation
      rcases hsettled relation hrelation with hpending | ⟨ty, pairs, hty, hteaches, hall⟩
      · exact Or.inl hpending
      · exact Or.inr ⟨ty, pairs, hseeding.kept _ _ hty, hteaches,
          fun pair hpair => hseeding.kept _ _ (hall pair hpair)⟩
  refine (solve_ends_of_seeded (Progress.invariant hready.owns) hc hseed).mono ?_ fun _ _ h => h
  rintro _ c' ⟨rest, arena, hprogress, hc', hidle⟩
  exact ⟨rest, arena, hprogress, hc', fun relation hrelation =>
    (hidle relation hrelation).unbound hprogress.ground⟩

theorem solve_ends (hready : Ready start) :
    Ends solve start
      (fun _ c' => ∃ rest arena, Progress start rest arena ∧ c'.At start.table rest arena ∧
        ∀ relation ∈ rest, arena.entry relation.waitsOn = none)
      fun failure _ => SolverError failure ∧ ¬ Consistent start :=
  solve_ends_of_settled hready ⟨⟨rfl, hready.accepting⟩, rfl, rfl⟩ (fun _ h => h)
    (fun _ h => Or.inl h) rfl

end CheckerM

end Typeflow
