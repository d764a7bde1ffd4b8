import Typeflow.Proofs.Checker.Resolution

/-!
The solver on any state: an arena with whatever it knows already, signatures with variables or
marks in them, and relations between any variables of the arena. A relation is removed once and
never looked at again; what makes it true then survives every later unification, also those that
end in an error. When the solver stops by itself, all remaining relations wait.
-/

namespace Typeflow

namespace Checker

/-- A state that can be handed to the solver: the symbols and the relations use variables of a
well-formed arena, and so do the signatures, which have no empty places. -/
structure WellFormed (checker : Checker) : Prop where
  arena : checker.arena.WellFormed
  registered : checker.Registered
  relations : ∀ relation ∈ checker.relations, ∀ v ∈ relation.vars, checker.arena.Owns v
  signatures : ∀ name signature, .function name signature ∈ checker.table.symbols →
    signature.toTy.nilFree = true ∧ signature.toTy.Over checker.arena

/-- Relations have only been removed since the start, and those that have been removed hold. -/
structure Reduces (start checker : Checker) : Prop where
  grows : start.arena.Grows checker.arena
  table_eq : checker.table = start.table
  sublist : checker.relations.Sublist start.relations
  removed : ∃ removed, start.relations.Perm (checker.relations ++ removed) ∧
    ∀ relation ∈ removed, relation.Holds checker.arena

/-- What holds between two steps of the solver: what the trace took at the start it still
takes. -/
structure Solving (start checker : Checker) : Prop extends start.Reduces checker where
  accepting : start.session.trace.Accepting → checker.session.trace.Accepting

def Abandons (start : Checker) (failure : Failure) (checker : Checker) : Prop :=
  start.Reduces checker ∧ start.Fails failure

variable {start checker c₁ : Checker}

theorem Reduces.refl (hwf : start.arena.WellFormed) : start.Reduces start :=
  ⟨Arena.Grows.refl hwf, rfl, List.Sublist.refl _, [], by simp, by simp⟩

theorem Reduces.advances (h : start.Reduces checker) (h' : checker.Advances c₁) :
    start.Reduces c₁ := by
  obtain ⟨removed, hperm, hholds⟩ := h.removed
  refine ⟨h.grows.trans h'.grows, h'.table_eq.trans h.table_eq, ?_, removed, ?_, ?_⟩
  · rw [h'.relations_eq]
    exact h.sublist
  · rw [h'.relations_eq]
    exact hperm
  · exact fun relation hmem => (hholds relation hmem).grows h.grows.wellFormed h'.grows

theorem Advances.reduces (h : start.Advances checker) (h' : checker.Reduces c₁) :
    start.Reduces c₁ := by
  obtain ⟨removed, hperm, hholds⟩ := h'.removed
  refine ⟨h.grows.trans h'.grows, h'.table_eq.trans h.table_eq, ?_, removed, ?_, hholds⟩
  · rw [← h.relations_eq]
    exact h'.sublist
  · rw [← h.relations_eq]
    exact hperm

theorem Advances.wellFormed (h : start.Advances checker) (hwf : start.WellFormed) :
    checker.WellFormed := by
  refine ⟨h.grows.wellFormed, hwf.registered.mono h.table_eq h.grows.size_le, ?_, ?_⟩
  · intro relation hmem v hv
    rw [h.relations_eq] at hmem
    exact h.grows.owns (hwf.relations relation hmem v hv)
  · intro name signature hmem
    rw [h.table_eq] at hmem
    obtain ⟨hnil, hover⟩ := hwf.signatures name signature hmem
    exact ⟨hnil, h.grows.owned hover⟩

theorem Reduces.remove {before after : List Relation} {relation : Relation}
    (h : start.Reduces checker) (hrelations : checker.relations = before ++ relation :: after)
    (hholds : relation.Holds checker.arena) :
    start.Reduces { checker with relations := before ++ after } := by
  obtain ⟨removed, hperm, hall⟩ := h.removed
  have hsublist : (before ++ after).Sublist (before ++ relation :: after) :=
    (List.sublist_cons_self relation after).append_left before
  refine ⟨h.grows, h.table_eq, ?_, relation :: removed, ?_, ?_⟩
  · rw [← hrelations] at hsublist
    exact hsublist.trans h.sublist
  · refine hperm.trans ?_
    rw [hrelations, List.append_assoc, List.cons_append]
    refine List.perm_middle.trans ?_
    rw [← List.append_assoc]
    exact List.perm_middle.symm
  · exact List.forall_mem_cons.mpr ⟨hholds, hall⟩

theorem Reduces.owns (h : start.Reduces checker) (hwf : start.WellFormed) :
    ∀ relation ∈ checker.relations, ∀ v ∈ relation.vars, checker.arena.Owns v :=
  fun relation hmem v hv => h.grows.owns (hwf.relations relation (h.sublist.subset hmem) v hv)

theorem Reduces.registered (h : start.Reduces checker) (hwf : start.WellFormed) :
    checker.Registered :=
  hwf.registered.mono h.table_eq h.grows.size_le

theorem Solving.continues (h : start.Solving checker) (h' : checker.Continues c₁) :
    start.Solving c₁ :=
  ⟨h.toReduces.advances h'.toAdvances, fun hs => h'.accepting (h.accepting hs)⟩

theorem Solving.stops {failure : Failure} (h : start.Solving checker)
    (h' : checker.Stops failure c₁) : start.Abandons failure c₁ :=
  ⟨h.toReduces.advances h'.1,
    h'.2.imp id fun hfull => ⟨hfull.1, fun hs => hfull.2 (h.accepting hs)⟩⟩

end Checker

namespace CheckerM

variable {start checker : Checker}

/-- The search passes over relations that wait and finds the first other one, which then holds. -/
theorem resolveFirst_sound (hwf : checker.arena.WellFormed) (candidates : List Relation)
    (howns : ∀ relation ∈ candidates, ∀ v ∈ relation.vars, checker.arena.Owns v) :
    Ends (resolveFirst candidates) checker
      (fun found c' => match found with
        | none => (∀ relation ∈ candidates, relation.Waits checker.arena) ∧ checker.Alike c'
        | some place => ∃ before relation after, candidates = before ++ relation :: after ∧
            place = before.length ∧ checker.Continues c' ∧ relation.Holds c'.arena)
      checker.Stops := by
  induction candidates generalizing checker with
  | nil => exact Ends.pure ⟨by simp, Checker.Alike.refl hwf⟩
  | cons first rest ih =>
    obtain ⟨hfirst, hrest⟩ := List.forall_mem_cons.mp howns
    refine Ends.bind
      ((tryResolve_sound hwf first hfirst).mono (fun _ _ h => h) fun _ _ h => h.2) ?_
    intro done c₁ hattempt
    cases done with
    | true => exact Ends.pure ⟨[], first, rest, rfl, rfl, hattempt.2⟩
    | false =>
      obtain ⟨hwaits, halike⟩ := hattempt
      have hsame := halike.session.same
      have hcontinues := halike.continues hwf
      refine Ends.bind ((ih halike.wellFormed fun relation hmem v hv =>
        hsame.owns_iff.mpr (hrest relation hmem v hv)).mono (fun _ _ h => h)
        fun _ _ h => hcontinues.stops h) ?_
      intro found c₂ hfound
      cases found with
      | none =>
        refine Ends.pure ⟨List.forall_mem_cons.mpr ⟨hwaits, fun relation hmem => ?_⟩,
          halike.trans hfound.2⟩
        exact (Relation.waits_congr hsame).mp (hfound.1 relation hmem)
      | some place =>
        obtain ⟨before, relation, after, rfl, rfl, hcontinues', hholds⟩ := hfound
        exact Ends.pure ⟨first :: before, relation, after, rfl, rfl,
          hcontinues.trans hcontinues', hholds⟩

theorem resolveNext_sound (hwf : start.WellFormed) (hsolving : start.Solving checker) :
    Ends resolveNext checker
      (fun done c' => start.Solving c' ∧
        if done then c'.relations.length + 1 = checker.relations.length
        else ∀ relation ∈ c'.relations, relation.Waits c'.arena) start.Abandons := by
  have hwf' := hsolving.grows.wellFormed
  refine Ends.get_bind (Ends.bind ((resolveFirst_sound hwf' checker.relations
    (hsolving.owns hwf)).mono (fun _ _ h => h) fun _ _ h => hsolving.stops h) ?_)
  intro found c₁ hfound
  cases found with
  | none =>
    obtain ⟨hwaits, halike⟩ := hfound
    refine Ends.pure ⟨hsolving.continues (halike.continues hwf'), fun relation hmem => ?_⟩
    rw [halike.relations_eq] at hmem
    exact (Relation.waits_congr halike.session.same).mpr (hwaits relation hmem)
  | some place =>
    obtain ⟨before, relation, after, hsplit, rfl, hcontinues, hholds⟩ := hfound
    have hsolving₁ := hsolving.continues hcontinues
    have hsplit₁ := hcontinues.relations_eq.trans hsplit
    refine Ends.bind_of_ok (removeRelation_eq hsplit₁)
      (Ends.pure ⟨⟨?_, hsolving₁.accepting⟩, ?_⟩)
    · exact hsolving₁.remove hsplit₁ hholds
    · simp only [if_true, hsplit, List.length_append, List.length_cons]
      omega

theorem write_sound (hsolving : start.Solving checker) (channel : Channel) (line : Text) :
    Ends (write channel line) checker
      (fun _ c' => start.Solving c' ∧ checker.Alike c') start.Abandons := by
  have hwf := hsolving.grows.wellFormed
  refine (write_alike hwf channel line).mono ?_ fun _ _ h => hsolving.stops h
  exact fun _ _ h => ⟨hsolving.continues (h.continues hwf), h⟩

/-- As many rounds as there are relations lead to a state in which all remaining relations
wait. -/
theorem resolveAll_sound (hwf : start.WellFormed) (rounds round : Nat)
    (hrounds : checker.relations.length ≤ rounds) (hsolving : start.Solving checker) :
    Ends (resolveAll rounds round) checker
      (fun _ c' => start.Solving c' ∧ ∀ relation ∈ c'.relations, relation.Waits c'.arena)
      start.Abandons := by
  induction rounds generalizing round checker with
  | zero =>
    have hnil : checker.relations = [] := List.length_eq_zero_iff.mp (by omega)
    exact Ends.pure ⟨hsolving, by simp [hnil]⟩
  | succ rounds ih =>
    refine Ends.bind (resolveNext_sound hwf hsolving) ?_
    rintro done c₁ ⟨hsolving₁, hdone⟩
    cases done with
    | false => exact Ends.pure ⟨hsolving₁, hdone⟩
    | true =>
      -- A round removes one relation, and writing removes none.
      have hlength : c₁.relations.length + 1 = checker.relations.length := hdone
      refine Ends.bind (write_sound hsolving₁ _ _) ?_
      rintro _ c₂ ⟨hsolving₂, h₂⟩
      refine Ends.get_bind (Ends.bind (write_sound hsolving₂ _ _) ?_)
      rintro _ c₃ ⟨hsolving₃, h₃⟩
      refine Ends.get_bind (Ends.bind (write_sound hsolving₃ _ _) ?_)
      rintro _ c₄ ⟨hsolving₄, h₄⟩
      refine ih (round + 1) ?_ hsolving₄
      rw [(h₂.trans (h₃.trans h₄)).relations_eq]
      omega

end CheckerM

/-- The variables of functions have their signatures, but for the symbols that are left. -/
structure Checker.Binds (start : Checker) (left : List Symbol) (checker : Checker) : Prop
    extends start.Continues checker where
  mem : ∀ symbol ∈ left, symbol ∈ start.table.symbols
  bound : ∀ name signature v, .function name signature ∈ start.table.symbols →
    start.varOf (.function name signature) = .ok v → .function name signature ∈ left ∨
      (Ty.var v).subst checker.arena.solved = signature.toTy.subst checker.arena.solved

namespace CheckerM

variable {start checker : Checker}

theorem bindFunction_sound (hwf : start.WellFormed) {symbol : Symbol} {rest : List Symbol}
    (hbinds : start.Binds (symbol :: rest) checker) :
    Ends (bindFunction symbol) checker (fun _ c' => start.Binds rest c') start.Stops := by
  have hmem : ∀ symbol ∈ rest, symbol ∈ start.table.symbols :=
    fun s hs => hbinds.mem s (List.mem_cons_of_mem _ hs)
  have hwf' := hbinds.grows.wellFormed
  cases symbol with
  | function name signature =>
    have hsymbol := hbinds.mem _ List.mem_cons_self
    obtain ⟨hnil, hover⟩ := hwf.signatures name signature hsymbol
    obtain ⟨n, hn, hv⟩ := Checker.exists_varOf hsymbol
    have howns : start.arena.Owns ⟨n⟩ := by
      have hsize := Checker.registered_iff.mp hwf.registered
      rw [Arena.owns_natCast]
      omega
    have hvar : (Ty.var ⟨n⟩).Over checker.arena :=
      fun w hw => Ty.mem_vars_var.mp hw ▸ hbinds.grows.owns howns
    refine Ends.bind_of_ok (varOf_eq ((Checker.varOf_congr hbinds.table_eq _).trans hv)) ?_
    refine (unify_continues hwf' hvar (hbinds.grows.owned hover) rfl hnil).mono ?_
      fun _ _ h => hbinds.toContinues.stops h
    rintro _ c' ⟨hcontinues, hequal⟩
    refine ⟨hbinds.toContinues.trans hcontinues, hmem, ?_⟩
    intro name' signature' v hsymbol' hv'
    rcases hbinds.bound name' signature' v hsymbol' hv' with hcons | hbound
    · rcases List.mem_cons.mp hcons with heq | hrest
      · cases heq
        rw [hv] at hv'
        cases hv'
        exact Or.inr hequal
      · exact Or.inl hrest
    · exact Or.inr (hcontinues.grows.subst_eq hwf' hbound)
  | _ =>
    refine Ends.pure ⟨hbinds.toContinues, hmem, ?_⟩
    intro name signature v hsymbol hv
    rcases hbinds.bound name signature v hsymbol hv with hcons | hbound
    · rcases List.mem_cons.mp hcons with heq | hrest
      · cases heq
      · exact Or.inl hrest
    · exact Or.inr hbound

/-- Solving ends in a state in which the functions have their signatures and all remaining
relations wait, or it fails. In both cases the relations that have been removed hold. -/
theorem solve_sound (hwf : start.WellFormed) :
    Ends solve start
      (fun _ c' => start.Reduces c' ∧ (∀ relation ∈ c'.relations, relation.Waits c'.arena) ∧
        ∀ name signature v, .function name signature ∈ start.table.symbols →
          start.varOf (.function name signature) = .ok v →
          (Ty.var v).subst c'.arena.solved = signature.toTy.subst c'.arena.solved)
      start.Abandons := by
  have hstart : start.Solving start := ⟨Checker.Reduces.refl hwf.arena, fun hs => hs⟩
  refine Ends.bind (write_sound hstart _ _) ?_
  rintro _ c₁ ⟨_, h₁⟩
  have hbinds : start.Binds c₁.table.symbols c₁ := by
    rw [h₁.table_eq]
    exact ⟨h₁.continues hwf.arena, fun _ h => h, fun _ _ _ h _ => Or.inl h⟩
  have hbind := Ends.forM start.Binds (fun symbol rest c hbinds => bindFunction_sound hwf hbinds)
    c₁.table.symbols c₁ hbinds
  refine Ends.get_bind (Ends.bind (hbind.mono (fun _ _ h => h) fun _ _ h => hstart.stops h) ?_)
  intro _ c₂ hbinds₂
  have hwf₂ := hbinds₂.toAdvances.wellFormed hwf
  have hlift : ∀ failure c', c₂.Abandons failure c' → start.Abandons failure c' :=
    fun _ _ h => ⟨hbinds₂.toAdvances.reduces h.1, hbinds₂.fails h.2⟩
  -- The rounds are followed from here, so that they are known to keep the signatures.
  have hsolving₂ : c₂.Solving c₂ := ⟨Checker.Reduces.refl hwf₂.arena, fun hs => hs⟩
  refine Ends.get_bind (Ends.bind
    ((resolveAll_sound hwf₂ _ 0 (Nat.le_refl _) hsolving₂).mono (fun _ _ h => h) hlift) ?_)
  rintro _ c₃ ⟨hsolving₃, hwaits⟩
  have hends : ∀ c₄, c₂.Solving c₄ → c₃.Alike c₄ →
      start.Reduces c₄ ∧ (∀ relation ∈ c₄.relations, relation.Waits c₄.arena) ∧
        ∀ name signature v, .function name signature ∈ start.table.symbols →
          start.varOf (.function name signature) = .ok v →
          (Ty.var v).subst c₄.arena.solved = signature.toTy.subst c₄.arena.solved := by
    intro c₄ hsolving₄ h₄
    refine ⟨hbinds₂.toAdvances.reduces hsolving₄.toReduces, ?_, ?_⟩
    · intro relation hmem
      rw [h₄.relations_eq] at hmem
      exact (Relation.waits_congr h₄.session.same).mpr (hwaits relation hmem)
    · intro name signature v hsymbol hv
      have hbound := (hbinds₂.bound name signature v hsymbol hv).resolve_left (by simp)
      exact hsolving₄.grows.subst_eq hwf₂.arena hbound
  refine Ends.get_bind ?_
  dsimp only
  split
  · exact Ends.pure (hends c₃ hsolving₃ (Checker.Alike.refl hsolving₃.grows.wellFormed))
  · exact (write_sound hsolving₃ _ _).mono (fun _ c₄ h => hends c₄ h.1 h.2) hlift

end CheckerM

/-- Applying the arena shows that the relation is true: both variables stand for one type, or the
callee stands for a function from what the arguments stand for to what the result stands for. -/
def Relation.Solved (relation : Relation) (arena : Arena) : Prop :=
  match relation with
  | .equates target other _ _ _ =>
    ∃ ty, arena.Applies (.var target) ty ∧ arena.Applies (.var other) ty
  | .applies callee args result =>
    ∃ params out, arena.Applies (.var callee) (.fn params out) ∧
      List.Forall₂ (fun arg param => arena.Applies (.var arg) param) args params ∧
      arena.Applies (.var result) out

theorem Relation.Holds.solved {relation : Relation} {arena : Arena} (h : relation.Holds arena)
    (hwf : arena.WellFormed) (howns : ∀ v ∈ relation.vars, arena.Owns v) :
    relation.Solved arena := by
  have hvar : ∀ {v}, v ∈ relation.vars → arena.Applies (.var v) (arena.solved v) :=
    fun hv => (Arena.applies_iff hwf).mpr ⟨fun w hw => Ty.mem_vars_var.mp hw ▸ howns _ hv, rfl⟩
  cases relation with
  | equates target other _ _ _ =>
    have heq : arena.solved target = arena.solved other := h
    exact ⟨_, hvar (by simp [vars]), heq ▸ hvar (by simp [vars])⟩
  | applies callee args result =>
    have heq : arena.solved callee = .fn (args.map arena.solved) (arena.solved result) := by
      have hsides := h
      simpa [Holds, sides, Function.comp_def] using hsides
    refine ⟨args.map arena.solved, arena.solved result, heq ▸ hvar (by simp [vars]), ?_,
      hvar (by simp [vars])⟩
    rw [List.forall₂_map_right_iff, List.forall₂_same]
    exact fun arg harg => hvar (by simp [vars, harg])

theorem Checker.Reduces.solved {start checker : Checker} (h : start.Reduces checker)
    (hwf : start.WellFormed) :
    ∃ removed, start.relations.Perm (checker.relations ++ removed) ∧
      ∀ relation ∈ removed, relation.Solved checker.arena := by
  obtain ⟨removed, hperm, hholds⟩ := h.removed
  refine ⟨removed, hperm, fun relation hmem => ?_⟩
  have hstart := hperm.mem_iff.mpr (List.mem_append_right _ hmem)
  exact (hholds relation hmem).solved h.grows.wellFormed fun v hv =>
    h.grows.owns (hwf.relations relation hstart v hv)

theorem CheckerM.tryResolve_of_waits {checker : Checker} {relation : Relation}
    (hwf : checker.arena.WellFormed) (howns : ∀ v ∈ relation.vars, checker.arena.Owns v)
    (hwaits : relation.Waits checker.arena) :
    ∃ after, CheckerM.tryResolve relation checker = .ok false after ∧
      ∀ ty value, after.arena.Applies ty value ↔ checker.arena.Applies ty value := by
  have hattempt := CheckerM.tryResolve_sound hwf relation howns
  cases htry : CheckerM.tryResolve relation checker with
  | error failure after => exact absurd hwaits (hattempt.bad_of_eq htry).1
  | ok done after =>
    cases done with
    | true => exact absurd hwaits (hattempt.good_of_eq htry).1
    | false =>
      obtain ⟨_, halike⟩ := hattempt.good_of_eq htry
      exact ⟨after, rfl, fun _ _ => halike.session.same.applies_iff hwf⟩

/-- Solving is sound on every state. It comes to an end: it returns, it reports an error, or the
trace is full. In each case the symbols keep their variables, relations have only been removed,
and those that have been removed are true. When it returns, every function stands for its
signature, and no remaining relation can be resolved. -/
theorem solver_soundness {checker : Checker} (hwf : checker.WellFormed) :
    ∃ after : Checker, after.table = checker.table ∧ after.Registered ∧
      (after.relations.Sublist checker.relations ∧
        ∃ removed, checker.relations.Perm (after.relations ++ removed) ∧
          ∀ relation ∈ removed, relation.Solved after.arena) ∧
      ((CheckerM.solve checker = .ok () after ∧
          (∀ name signature, .function name signature ∈ checker.table.symbols →
            ∃ v ty, checker.varOf (.function name signature) = .ok v ∧
              after.arena.Applies (.var v) ty ∧ after.arena.Applies signature.toTy ty) ∧
          ∀ relation ∈ after.relations, ∃ after',
            CheckerM.tryResolve relation after = .ok false after' ∧
              ∀ ty value, after'.arena.Applies ty value ↔ after.arena.Applies ty value) ∨
        (∃ error, CheckerM.solve checker = .error (.error error) after) ∨
        CheckerM.solve checker = .error (.fault .traceFull) after ∧
          ¬ checker.session.trace.Accepting) := by
  have hsolve := CheckerM.solve_sound hwf
  cases hrun : CheckerM.solve checker with
  | ok _ after =>
    obtain ⟨hreduces, hwaits, hfunctions⟩ := hsolve.good_of_eq hrun
    have hwf' := hreduces.grows.wellFormed
    refine ⟨after, hreduces.table_eq, hreduces.registered hwf,
      ⟨hreduces.sublist, hreduces.solved hwf⟩, Or.inl ⟨rfl, ?_, ?_⟩⟩
    · intro name signature hsymbol
      obtain ⟨n, hn, hv⟩ := Checker.exists_varOf hsymbol
      have hsize := Checker.registered_iff.mp hwf.registered
      have howns : checker.arena.Owns ⟨n⟩ := Arena.owns_natCast.mpr (by omega)
      have hover := (hwf.signatures name signature hsymbol).2
      refine ⟨⟨n⟩, signature.toTy.subst after.arena.solved, hv, ?_, ?_⟩
      · refine (Arena.applies_iff hwf').mpr
          ⟨fun w hw => Ty.mem_vars_var.mp hw ▸ hreduces.grows.owns howns, ?_⟩
        exact (hfunctions name signature ⟨n⟩ hsymbol hv).symm
      · exact (Arena.applies_iff hwf').mpr ⟨hreduces.grows.owned hover, rfl⟩
    · exact fun relation hmem =>
        CheckerM.tryResolve_of_waits hwf' (hreduces.owns hwf relation hmem)
        (hwaits relation hmem)
  | error failure after =>
    obtain ⟨hreduces, hfails⟩ := hsolve.bad_of_eq hrun
    refine ⟨after, hreduces.table_eq, hreduces.registered hwf,
      ⟨hreduces.sublist, hreduces.solved hwf⟩, Or.inr ?_⟩
    rcases hfails with ⟨error, rfl⟩ | ⟨rfl, hfull⟩
    · exact Or.inl ⟨error, rfl⟩
    · exact Or.inr ⟨rfl, hfull⟩

/-- `g` has the open signature `(?1) -> ?1`. The call `?3 = g(?2)` makes `?2` and `?3` equal, and
what waits for `?3` goes on waiting. -/
theorem solver_soundness_of_open_signature :
    let g : Symbol := .function ⟨[103]⟩ ⟨[.var ⟨1⟩], .var ⟨1⟩⟩
    let call : Relation := .applies ⟨0⟩ [⟨2⟩] ⟨3⟩
    let pending : Relation := .equates ⟨2⟩ ⟨3⟩ g g .unknown
    let table := (SymbolTable.ofSymbols [g]).toOption.getD .empty
    let checker : Checker :=
      { Checker.ofTable table Trace.off with
        session := ⟨Arena.empty.grow 4, Trace.off⟩, relations := [pending, call] }
    SymbolTable.ofSymbols [g] = .ok table ∧ checker.WellFormed ∧
      ∃ after, CheckerM.solve checker = .ok () after ∧
      after.relations = [pending] ∧ call.Solved after.arena ∧
      ∃ after', CheckerM.tryResolve pending after = .ok false after' := by
  intro g call pending table checker
  have htable : SymbolTable.ofSymbols [g] = .ok table := rfl
  have hwf : checker.WellFormed := by
    refine ⟨Arena.wellFormed_empty.grow 4, Checker.registered_iff.mpr (by decide), by decide, ?_⟩
    intro name signature hsymbol
    have hmem : Symbol.function name signature ∈ [g] :=
      SymbolTable.symbols_of_ofSymbols htable ▸ hsymbol
    obtain ⟨rfl, rfl⟩ : name = ⟨[103]⟩ ∧ signature = ⟨[.var ⟨1⟩], .var ⟨1⟩⟩ := by
      simpa [g] using hmem
    decide
  obtain ⟨_, after, hrun, hrelations⟩ : ∃ value after, CheckerM.solve checker = .ok value after ∧
      after.relations = [pending] := Ends.exists_ok (by decide +kernel)
  obtain ⟨after', _, _, ⟨_, removed, hperm, hsolved⟩, hends⟩ := solver_soundness hwf
  rcases hends with ⟨hok, _, hwaits⟩ | ⟨_, herror⟩ | ⟨herror, _⟩
  · rw [hrun] at hok
    cases hok
    rw [hrelations] at hperm hwaits
    have htail : [call].Perm removed := (List.perm_cons pending).mp hperm
    obtain ⟨after', htry, _⟩ := hwaits pending (by simp)
    exact ⟨htable, hwf, after, hrun, hrelations, hsolved call (htail.subset (by simp)), after',
      htry⟩
  · rw [hrun] at herror
    cases herror
  · rw [hrun] at herror
    cases herror

end Typeflow
