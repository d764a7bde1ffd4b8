import Typeflow.Proofs.Arena.Answers
import Typeflow.Proofs.Inference

/-!
Solving in batches. After each batch of statements the solver runs on what is left of the earlier
relations and on the new ones. Earlier relations that are gone have been settled, and what was
known stays known, so a run on the facts of all statements so far can start from there. It ends
with those facts and with the relations that they leave waiting, however the statements were
divided.
-/

namespace Typeflow

section Facts

variable {checker checker' : Checker} {v : TypeVar} {ty : Ty} {relation : Relation}

theorem Fact.mono (htable : checker.table = checker'.table)
    (hsub : ∀ relation ∈ checker.relations, relation ∈ checker'.relations)
    (h : Fact checker v ty) : Fact checker' v ty := by
  induction h with
  | builtin hsymbol hv =>
    exact .builtin (htable ▸ hsymbol) ((Checker.varOf_congr htable _).symm.trans hv)
  | equated hmem _ ih => exact .equated (hsub _ hmem) ih
  | argument hmem _ hlength hpair ih => exact .argument (hsub _ hmem) ih hlength hpair
  | result hmem _ hlength ih => exact .result (hsub _ hmem) ih hlength

theorem Consistent.anti (htable : checker.table = checker'.table)
    (hsub : ∀ relation ∈ checker.relations, relation ∈ checker'.relations)
    (h : Consistent checker') : Consistent checker :=
  ⟨fun v ty ty' hty hty' => h.unique v ty ty' (hty.mono htable hsub) (hty'.mono htable hsub),
    fun callee args result ty hmem hty =>
      h.callable callee args result ty (hsub _ hmem) (hty.mono htable hsub)⟩

theorem Blocked.anti (htable : checker.table = checker'.table)
    (hsub : ∀ relation ∈ checker.relations, relation ∈ checker'.relations)
    (h : Blocked checker' relation) : Blocked checker relation :=
  fun ty hty => h ty (hty.mono htable hsub)

theorem fact_congr (htable : checker.table = checker'.table)
    (hrelations : checker.relations = checker'.relations) :
    Fact checker v ty ↔ Fact checker' v ty :=
  ⟨Fact.mono htable fun _ h => hrelations ▸ h, Fact.mono htable.symm fun _ h => hrelations ▸ h⟩

theorem consistent_congr (htable : checker.table = checker'.table)
    (hrelations : checker.relations = checker'.relations) :
    Consistent checker ↔ Consistent checker' :=
  ⟨Consistent.anti htable.symm fun _ h => hrelations ▸ h,
    Consistent.anti htable fun _ h => hrelations ▸ h⟩

theorem blocked_congr (htable : checker.table = checker'.table)
    (hrelations : checker.relations = checker'.relations) :
    Blocked checker = Blocked checker' := by
  funext relation
  exact propext (forall_congr' fun ty => not_congr (fact_congr htable hrelations))

theorem blockedRelations_congr (htable : checker.table = checker'.table)
    (hrelations : checker.relations = checker'.relations) :
    blockedRelations checker = blockedRelations checker' := by
  unfold blockedRelations
  rw [blocked_congr htable hrelations, hrelations]

end Facts

/-- A run that has the relations of the statements and has not looked at them. -/
def SymbolTable.program (table : SymbolTable) (stmts : List Statement) : Checker :=
  { Checker.ofTable table Trace.off with relations := table.relationsOf table.size stmts }

/-- The statements have relations, and these relations give consistent facts. -/
def SymbolTable.Accepts (table : SymbolTable) (stmts : List Statement) : Prop :=
  (∀ statement ∈ stmts, statement.isKnown = true ∧ statement.InScope table) ∧
    Consistent (table.program stmts)

section Append

variable {table : SymbolTable} {stmts stmts' : List Statement}

theorem SymbolTable.table_program_append :
    (table.program stmts).table = (table.program (stmts ++ stmts')).table := rfl

theorem SymbolTable.program_append (relation : Relation)
    (h : relation ∈ (table.program stmts).relations) :
    relation ∈ (table.program (stmts ++ stmts')).relations := by
  show relation ∈ table.relationsOf table.size (stmts ++ stmts')
  rw [SymbolTable.relationsOf_append]
  exact List.mem_append_left _ h

theorem SymbolTable.Accepts.of_append (h : table.Accepts (stmts ++ stmts')) :
    table.Accepts stmts :=
  ⟨fun statement hmem => h.1 statement (List.mem_append_left _ hmem),
    h.2.anti SymbolTable.table_program_append SymbolTable.program_append⟩

end Append

open Classical in
/-- What holds before the solver is run again: the relations of the statements are pending or
settled, none of those that have to wait is gone, and only facts are known. -/
structure Staged (table : SymbolTable) (stmts : List Statement) (checker : Checker) : Prop where
  accepting : checker.session.trace.Accepting
  table_eq : checker.table = table
  ground : checker.arena.Ground
  size_eq : checker.arena.size = table.size + (stmts.flatMap Statement.calls).length
  inScope : ∀ statement ∈ stmts, statement.isKnown = true ∧ statement.InScope table
  sound : ∀ v ty, checker.arena.entry v = some ty → Fact (table.program stmts) v ty
  mem : ∀ relation ∈ checker.relations, relation ∈ table.relationsOf table.size stmts
  settled : ∀ relation ∈ table.relationsOf table.size stmts,
    relation ∈ checker.relations ∨ relation.Settled checker.arena
  blocked : checker.relations.filter
    (fun relation => decide (Blocked (table.program stmts) relation)) =
      blockedRelations (table.program stmts)

/-- What holds after it: exactly the facts are known, and the relations left are those that wait
for a variable without one. -/
structure Absorbed (table : SymbolTable) (stmts : List Statement) (checker : Checker) : Prop
    extends Staged table stmts checker where
  consistent : Consistent (table.program stmts)
  complete : ∀ v ty, Fact (table.program stmts) v ty → checker.arena.entry v = some ty
  relations_eq : checker.relations = blockedRelations (table.program stmts)

namespace CheckerM

variable {table : SymbolTable} {stmts batch : List Statement} {checker : Checker} {trace : Trace}

theorem staged_ofTable (htrace : trace.Accepting) :
    Staged table [] (Checker.ofTable table trace) := by
  have harena : (Checker.ofTable table trace).arena = Arena.empty.grow table.size :=
    Checker.ofTable_arena table trace
  have hentry : ∀ v ty, (Checker.ofTable table trace).arena.entry v ≠ some ty := by
    intro v ty hty
    rw [harena, Arena.entry_grow, Arena.entry_empty] at hty
    cases hty
  refine ⟨htrace, rfl, fun v ty hty => (hentry v ty hty).elim, ?_, by simp,
    fun v ty hty => (hentry v ty hty).elim, by simp [Checker.ofTable],
    by simp [SymbolTable.relationsOf], rfl⟩
  rw [harena, Arena.size_grow]
  simp [Arena.empty, Arena.size]

private theorem filter_eq_of_imp {α : Type} {p q : α → Bool} {xs ys : List α}
    (h : xs.filter p = ys.filter p) (himp : ∀ x, q x = true → p x = true) :
    xs.filter q = ys.filter q := by
  have hboth : ∀ zs : List α, zs.filter q = (zs.filter p).filter q := by
    intro zs
    rw [List.filter_filter]
    refine List.filter_congr fun z _ => ?_
    cases hq : q z with
    | true => simp [himp z hq]
    | false => rfl
  rw [hboth xs, hboth ys, h]

open Classical in
/-- The relations of a further batch are pending, and its statements take nothing away. -/
theorem staged_extend (hstaged : Staged table stmts checker) {checker' : Checker}
    (hbatch : ∀ statement ∈ batch, statement.isKnown = true ∧ statement.InScope table)
    (hc : checker'.At table (checker.relations ++ table.relationsOf checker.arena.size batch)
      (checker.arena.grow (batch.flatMap Statement.calls).length)) :
    Staged table (stmts ++ batch) checker' := by
  have harena : checker'.arena = _ := hc.session.arena_eq
  have hentry : ∀ v, checker'.arena.entry v = checker.arena.entry v := by
    intro v
    rw [harena, Arena.entry_grow]
  have hrelations := hc.relations_eq
  rw [hstaged.size_eq] at hrelations
  refine ⟨hc.session.accepting, hc.table_eq, ?_, ?_, ?_, ?_, ?_, ?_, ?_⟩
  · intro v ty hty
    exact hstaged.ground v ty ((hentry v).symm.trans hty)
  · rw [harena, Arena.size_grow, hstaged.size_eq, List.flatMap_append, List.length_append,
      Nat.add_assoc]
  · intro statement hmem
    exact (List.mem_append.mp hmem).elim (hstaged.inScope statement) (hbatch statement)
  · intro v ty hty
    exact (hstaged.sound v ty ((hentry v).symm.trans hty)).mono SymbolTable.table_program_append
      SymbolTable.program_append
  · rw [hrelations, SymbolTable.relationsOf_append]
    intro relation hmem
    refine List.mem_append.mpr ((List.mem_append.mp hmem).imp (hstaged.mem relation) id)
  · rw [hrelations, SymbolTable.relationsOf_append]
    intro relation hmem
    rcases List.mem_append.mp hmem with hold | hnew
    · rcases hstaged.settled relation hold with hpending | ⟨ty, pairs, hty, hteaches, hall⟩
      · exact Or.inl (List.mem_append_left _ hpending)
      · exact Or.inr ⟨ty, pairs, (hentry _).trans hty, hteaches,
          fun pair hpair => (hentry _).trans (hall pair hpair)⟩
    · exact Or.inl (List.mem_append_right _ hnew)
  · -- What waits with the facts of all statements has been waiting with those of the first ones.
    have hprogram : (table.program (stmts ++ batch)).relations = _ :=
      SymbolTable.relationsOf_append stmts batch
    rw [hrelations, blockedRelations, hprogram, List.filter_append, List.filter_append]
    refine congrArg (· ++ _) (filter_eq_of_imp hstaged.blocked fun relation h => ?_)
    exact decide_eq_true (Blocked.anti SymbolTable.table_program_append
      SymbolTable.program_append (of_decide_eq_true h))

theorem generate_staged (hstaged : Staged table stmts checker)
    (batch : List Statement) :
    Ends (generate batch) checker (fun _ c' => Staged table (stmts ++ batch) c')
      fun _ _ => ¬ ∀ statement ∈ batch, statement.isKnown = true ∧ statement.InScope table := by
  by_cases hknown : ∀ statement ∈ batch, statement.isKnown = true
  · have hc : checker.At table checker.relations checker.arena :=
      ⟨⟨rfl, hstaged.accepting⟩, hstaged.table_eq, rfl⟩
    refine (generate_ends batch hknown hc).mono ?_ ?_
    · rintro _ c' ⟨hscope, hc'⟩
      exact staged_extend hstaged
        (fun statement hmem => ⟨hknown statement hmem, hscope statement hmem⟩) hc'
    · intro failure _ hfails hall
      exact not_failsAt_of_inScope (fun statement hmem => (hall statement hmem).2) failure hfails
  · refine (generate_known batch checker).mono (fun _ _ h => absurd h hknown) ?_
    exact fun _ _ _ hall => hknown fun statement hmem => (hall statement hmem).1

open Classical in
/-- Solving what is pending is solving all relations so far. -/
theorem solve_absorbed
    (hsignatures : ∀ name signature, .function name signature ∈ table.symbols →
      signature.toTy.Ground)
    (hstaged : Staged table stmts checker) :
    Ends solve checker (fun _ c' => Absorbed table stmts c')
      fun _ _ => ¬ Consistent (table.program stmts) := by
  -- The run is that of a solver that has all relations, of which those that are gone are settled.
  let start : Checker := { checker with relations := table.relationsOf table.size stmts }
  have htable : start.table = (table.program stmts).table := hstaged.table_eq
  have hrelations : start.relations = (table.program stmts).relations := rfl
  have hready : Ready start := by
    refine ⟨hstaged.accepting, hstaged.ground, ?_, ?_, ?_, ?_⟩
    · intro v ty hty
      exact (fact_congr htable hrelations).mpr (hstaged.sound v ty hty)
    · rw [htable]
      exact hsignatures
    · show checker.table.size ≤ checker.arena.size
      rw [hstaged.size_eq, hstaged.table_eq]
      exact Nat.le_add_right _ _
    · intro relation hmem v hv
      have hbounds := SymbolTable.vars_relationsOf (Nat.le_refl _)
        (fun statement hmem => (hstaged.inScope statement hmem).2) relation hmem v hv
      refine ⟨hbounds.1, ?_⟩
      show v.index < (checker.arena.size : Int)
      rw [hstaged.size_eq]
      exact_mod_cast hbounds.2
  have hblocked : checker.relations.filter
      (fun relation => decide (Blocked start relation)) = blockedRelations start := by
    rw [blocked_congr htable hrelations, blockedRelations_congr htable hrelations]
    exact hstaged.blocked
  have hc : checker.At start.table checker.relations start.arena :=
    ⟨⟨rfl, hstaged.accepting⟩, rfl, rfl⟩
  have hsolve := solve_ends_of_settled hready hc hstaged.mem hstaged.settled hblocked
  refine hsolve.mono ?_ ?_
  · rintro _ c' ⟨rest, arena, hprogress, hc', hstop⟩
    have harena : c'.arena = arena := hc'.session.arena_eq
    subst harena
    obtain rfl := hc'.relations_eq
    have hblocked' := hprogress.blocked
    rw [blocked_congr htable hrelations, blockedRelations_congr htable hrelations] at hblocked'
    refine ⟨⟨hc'.session.accepting, hc'.table_eq.trans hstaged.table_eq, hprogress.ground,
      hprogress.size_eq.trans hstaged.size_eq, hstaged.inScope, ?_, hprogress.mem,
      hprogress.settled, hblocked'⟩, ?_, ?_, ?_⟩
    · intro v ty hty
      exact (fact_congr htable hrelations).mp (hprogress.sound v ty hty)
    · exact (consistent_congr htable hrelations).mp (hprogress.consistent hstop)
    · intro v ty hty
      exact hprogress.entry_of_fact hstop ((fact_congr htable hrelations).mpr hty)
    · rw [← blockedRelations_congr htable hrelations]
      exact hprogress.relations_eq hstop
  · rintro _ _ ⟨_, hinconsistent⟩ hconsistent
    exact hinconsistent ((consistent_congr htable hrelations).mpr hconsistent)

/-- Takes up a batch of statements and solves what is known by then. -/
def absorb (batch : List Statement) : CheckerM Unit := do
  generate batch
  solve

section Absorb

variable
  (hsignatures : ∀ name signature, .function name signature ∈ table.symbols →
    signature.toTy.Ground)
include hsignatures

theorem absorb_ends (hstaged : Staged table stmts checker) (batch : List Statement) :
    Ends (absorb batch) checker (fun _ c' => Absorbed table (stmts ++ batch) c')
      fun _ _ => ¬ table.Accepts (stmts ++ batch) := by
  have hgenerate := (generate_staged hstaged batch).mono (fun _ _ h => h)
    fun _ _ hbatch (haccepts : table.Accepts (stmts ++ batch)) => hbatch fun statement hmem =>
      haccepts.1 statement (List.mem_append_right _ hmem)
  refine Ends.bind hgenerate fun _ c' hstaged' => ?_
  exact (solve_absorbed hsignatures hstaged').mono (fun _ _ h => h)
    fun _ _ hinconsistent haccepts => hinconsistent haccepts.2

/-- A refusal of the first statements is a refusal of all. -/
theorem absorb_forM_ends (batches : List (List Statement))
    (habsorbed : Absorbed table stmts checker) :
    Ends (batches.forM absorb) checker
      (fun _ c' => Absorbed table (stmts ++ batches.flatten) c')
      fun _ _ => ¬ table.Accepts (stmts ++ batches.flatten) := by
  induction batches generalizing stmts checker with
  | nil => exact Ends.pure (by simpa using habsorbed)
  | cons first rest ih =>
    rw [List.flatten_cons, ← List.append_assoc]
    refine Ends.bind ((absorb_ends hsignatures habsorbed.toStaged first).mono
      (fun _ _ h => h) fun _ _ hrefused haccepts => hrefused haccepts.of_append) ?_
    exact fun _ c' habsorbed' => ih habsorbed'

/-- However the statements are divided, the run ends with all their facts, or they are refused. -/
theorem absorb_batches_ends (htrace : trace.Accepting) {batches : List (List Statement)}
    (hne : batches ≠ []) :
    Ends (batches.forM absorb) (Checker.ofTable table trace)
      (fun _ c' => Absorbed table batches.flatten c')
      fun _ _ => ¬ table.Accepts batches.flatten := by
  obtain ⟨first, rest, rfl⟩ := List.exists_cons_of_ne_nil hne
  have hfirst := absorb_ends hsignatures (staged_ofTable htrace) first
  refine Ends.bind (hfirst.mono (fun _ _ h => h) fun _ _ hrefused haccepts =>
    hrefused (SymbolTable.Accepts.of_append haccepts)) ?_
  exact fun _ c' habsorbed => absorb_forM_ends hsignatures rest habsorbed

end Absorb

end CheckerM

namespace Absorbed

variable {table : SymbolTable} {stmts : List Statement} {checker checker' : Checker}

theorem accepts (h : Absorbed table stmts checker) : table.Accepts stmts :=
  ⟨h.inScope, h.consistent⟩

theorem arena_eq (h : Absorbed table stmts checker) (h' : Absorbed table stmts checker') :
    checker.arena = checker'.arena := by
  refine Arena.ext_entry (h.size_eq.trans h'.size_eq.symm) fun v => Option.ext fun ty => ?_
  exact ⟨fun hty => h'.complete v ty (h.sound v ty hty),
    fun hty => h.complete v ty (h'.sound v ty hty)⟩

theorem solve_again (h : Absorbed table stmts checker)
    (hsignatures : ∀ name signature, .function name signature ∈ table.symbols →
      signature.toTy.Ground) :
    ∃ after, CheckerM.solve checker = .ok () after ∧ after.table = checker.table ∧
      after.relations = checker.relations ∧ after.arena = checker.arena := by
  have hagain := CheckerM.solve_absorbed hsignatures h.toStaged
  obtain ⟨_, after, hrun, hafter⟩ :=
    (hagain.mono (fun _ _ h => h) fun _ _ hnot => hnot h.consistent).exists_ok
  exact ⟨after, hrun, hafter.table_eq.trans h.table_eq.symm,
    hafter.relations_eq.trans h.relations_eq.symm, hafter.arena_eq h⟩

end Absorbed

/-- Solving after each batch of statements is solving once after all of them. One way fails
exactly when the other does. When neither fails the same relations are pending, in the same order,
and every variable has the same type. Solving again changes nothing. -/
theorem solve_in_batches_eq_at_once {table : SymbolTable} {trace trace' : Trace}
    {batches : List (List Statement)}
    (hsignatures : ∀ name signature, .function name signature ∈ table.symbols →
      signature.toTy.Ground)
    (htrace : trace.Accepting) (htrace' : trace'.Accepting) (hne : batches ≠ []) :
    let inBatches := batches.forM CheckerM.absorb (Checker.ofTable table trace)
    let atOnce := CheckerM.absorb batches.flatten (Checker.ofTable table trace')
    ((∃ failure after, inBatches = .error failure after) ↔
      ∃ failure after, atOnce = .error failure after) ∧
    (∀ after after', inBatches = .ok () after → atOnce = .ok () after' →
      after.relations = after'.relations ∧ after.arena = after'.arena ∧
        ∀ v, after.arena.Owns v →
          ∃ ty, after.arena.Applies (.var v) ty ∧ after'.arena.Applies (.var v) ty) ∧
    ∀ after, inBatches = .ok () after →
      ∃ again, CheckerM.solve after = .ok () again ∧ again.table = after.table ∧
        again.relations = after.relations ∧ again.arena = after.arena := by
  intro inBatches atOnce
  have hbatches := CheckerM.absorb_batches_ends hsignatures htrace hne
  have honce := CheckerM.absorb_ends hsignatures (CheckerM.staged_ofTable htrace')
    batches.flatten
  rw [List.nil_append] at honce
  refine ⟨⟨?_, ?_⟩, ?_, ?_⟩
  · rintro ⟨failure, after, hrun⟩
    cases hrun' : atOnce with
    | ok _ after' => exact absurd (honce.good_of_eq hrun').accepts (hbatches.bad_of_eq hrun)
    | error failure' after' => exact ⟨failure', after', rfl⟩
  · rintro ⟨failure', after', hrun'⟩
    cases hrun : inBatches with
    | ok _ after => exact absurd (hbatches.good_of_eq hrun).accepts (honce.bad_of_eq hrun')
    | error failure after => exact ⟨failure, after, rfl⟩
  · intro after after' hrun hrun'
    have habsorbed := hbatches.good_of_eq hrun
    have habsorbed' := honce.good_of_eq hrun'
    have harena := habsorbed.arena_eq habsorbed'
    refine ⟨habsorbed.relations_eq.trans habsorbed'.relations_eq.symm, harena, fun v hv => ?_⟩
    have happly : after.arena.Applies (.var v) _ :=
      ⟨_, Arena.apply_var habsorbed.ground.closed hv⟩
    exact ⟨_, happly, harena ▸ happly⟩
  · exact fun after hrun => (hbatches.good_of_eq hrun).solve_again hsignatures

/-- With `f : (i) -> i`, the statement `x = y` waits until `y = f(x)` comes, and `z = z` goes on
waiting. -/
theorem solve_in_batches_eq_at_once_of_late_call :
    let f : Identifier := ⟨[102]⟩
    let x : Identifier := ⟨[120]⟩
    let y : Identifier := ⟨[121]⟩
    let z : Identifier := ⟨[122]⟩
    let signature : Signature := ⟨[.name ⟨[105]⟩], .name ⟨[105]⟩⟩
    let symbols : List Symbol := [.variable ⟨x, none⟩, .variable ⟨y, none⟩, .variable ⟨z, none⟩,
      .function f signature]
    let batches : List (List Statement) :=
      [[.assign x (.ref y), .assign z (.ref z)], [.assign y (.call f [.ref x])]]
    ∃ table after after', SymbolTable.ofSymbols symbols = .ok table ∧
      batches.forM CheckerM.absorb (Checker.ofTable table Trace.off) = .ok () after ∧
      CheckerM.absorb batches.flatten (Checker.ofTable table Trace.off) = .ok () after' ∧
      after.relations.length = 1 ∧ after.relations = after'.relations ∧
      after.arena = after'.arena := by
  intro f x y z signature symbols batches
  let table := (SymbolTable.ofSymbols symbols).toOption.getD .empty
  have htable : SymbolTable.ofSymbols symbols = .ok table := by rfl
  have hsignatures : ∀ name signature', .function name signature' ∈ table.symbols →
      signature'.toTy.Ground := by
    intro name signature' hmem
    rw [SymbolTable.symbols_of_ofSymbols htable] at hmem
    obtain ⟨rfl, rfl⟩ : name = f ∧ signature' = signature := by simpa [symbols] using hmem
    decide
  obtain ⟨hfails, hsame, _⟩ := solve_in_batches_eq_at_once hsignatures
    Trace.off_accepting Trace.off_accepting (List.cons_ne_nil _ _ : batches ≠ [])
  obtain ⟨_, after, hbatches, hlength⟩ : ∃ value after,
      batches.forM CheckerM.absorb (Checker.ofTable table Trace.off) = .ok value after ∧
        after.relations.length = 1 := Ends.exists_ok (by decide +kernel)
  cases honce : CheckerM.absorb batches.flatten (Checker.ofTable table Trace.off) with
  | error failure' after' =>
    obtain ⟨failure, after, hfailed⟩ := hfails.mpr ⟨failure', after', honce⟩
    rw [hbatches] at hfailed
    cases hfailed
  | ok _ after' =>
    obtain ⟨hrelations, harena, _⟩ := hsame after after' hbatches honce
    exact ⟨table, after, after', htable, hbatches, honce, hlength, hrelations, harena⟩

end Typeflow
