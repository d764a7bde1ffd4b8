import Typeflow.Proofs.Checker.Generation
import Typeflow.Proofs.Program.Schedule
import Typeflow.Proofs.Tracing

/-!
The shape of what is generated from statements. Generation fails exactly if some name is not in
the table or some expression has no type, and then with the first offence. Otherwise the arena
gains one unbound variable for each call, and each statement that gives a value adds the relations
of the calls in the value, from the inside out, and then the assignment. The result of a call
appears before its own relation nowhere, and after it exactly once.
-/

namespace Typeflow

open Traced (withTrace)

/-- A relation uses a new variable as an input or introduces it as a result. -/
theorem Relation.count_vars {table : SymbolTable} {relation : Relation}
    (hnamed : relation.Named table) {v : TypeVar} (hv : table.size ≤ v.index) :
    relation.vars.count v = relation.inputs.count v + relation.results.count v := by
  have hnew : ∀ name ∈ table.names, table.var name ≠ v := by
    intro name hname heq
    have hlt := SymbolTable.var_lt hname
    rw [heq] at hlt
    omega
  cases relation with
  | applies callee args result =>
    obtain ⟨name, hname, rfl⟩ := hnamed
    simp only [vars, inputs, results]
    rw [List.count_cons_of_ne (hnew name hname), ← List.singleton_append, List.count_append,
      Nat.add_comm]
  | equates target other targetSymbol otherSymbol statement =>
    obtain ⟨name, hname, rfl, -⟩ := hnamed
    simp only [vars, inputs, results]
    rw [List.count_cons_of_ne (hnew name hname), List.count_nil, Nat.add_zero]

namespace SymbolTable

variable {table : SymbolTable} {next : Nat} {stmts : List Statement}

theorem count_flatMap_vars {relations : List Relation}
    (hnamed : ∀ relation ∈ relations, relation.Named table) {v : TypeVar}
    (hv : table.size ≤ v.index) :
    (relations.flatMap Relation.vars).count v =
      (relations.flatMap Relation.inputs).count v +
        (relations.flatMap Relation.results).count v := by
  induction relations with
  | nil => rfl
  | cons first rest ih =>
    obtain ⟨hfirst, hrest⟩ := List.forall_mem_cons.mp hnamed
    simp only [List.flatMap_cons, List.count_append, ih hrest, Relation.count_vars hfirst hv]
    omega

/-- Every new variable is the result of one call and the input of one relation. -/
theorem count_new (hnext : table.size ≤ next)
    (hscope : ∀ statement ∈ stmts, statement.InScope table) {v : TypeVar}
    (hv : v ∈ newVars next (stmts.flatMap Statement.calls).length) :
    ((table.relationsOf next stmts).flatMap Relation.inputs).count v = 1 ∧
      ((table.relationsOf next stmts).flatMap Relation.results).count v = 1 := by
  have hone := List.count_eq_one_of_mem (nodup_newVars next _) hv
  have hlow := (mem_newVars.mp hv).1
  constructor
  · have hinputs := inputs_relationsOf hnext (Nat.le_refl next) hscope
    rw [← List.count_filter (p := fun v : TypeVar => decide ((next : Int) ≤ v.index))
      (decide_eq_true hlow), hinputs.count_eq, hone]
  · rw [results_relationsOf, hone]

/-- The result of a call appears nowhere before the call and once after it. -/
theorem result_used_once (hnext : table.size ≤ next)
    (hscope : ∀ statement ∈ stmts, statement.InScope table) {before after : List Relation}
    {relation : Relation} (h : table.relationsOf next stmts = before ++ relation :: after)
    {v : TypeVar} (hv : v ∈ relation.results) :
    v ∉ before.flatMap Relation.vars ∧ (after.flatMap Relation.vars).count v = 1 := by
  have horderly := (scheduled_relationsOf hnext hscope).orderly hnext
  have hmem : relation ∈ table.relationsOf next stmts := by simp [h]
  have hsize := horderly.fresh relation hmem v hv
  have hnew : v ∈ newVars next (stmts.flatMap Statement.calls).length := by
    rw [← results_relationsOf]
    exact List.mem_flatMap.mpr ⟨relation, hmem, hv⟩
  obtain ⟨hinputs, hresults⟩ := count_new hnext hscope hnew
  have hown := List.count_eq_zero.mpr (horderly.own relation hmem v hv)
  rw [h] at horderly hinputs hresults
  simp only [List.flatMap_append, List.flatMap_cons, List.count_append] at hinputs hresults
  have hresult := List.count_pos_iff.mpr hv
  -- What stands before uses no variable that a later relation introduces.
  have hbefore : (before.flatMap Relation.inputs).count v = 0 := by
    refine List.count_eq_zero.mpr fun hinput => ?_
    obtain ⟨earlier, hearlier, hinput⟩ := List.mem_flatMap.mp hinput
    obtain ⟨-, -, hlater⟩ := List.pairwise_append.mp horderly.later
    exact (hlater earlier hearlier relation List.mem_cons_self v hv).1 hinput
  have hcount : ∀ part ⊆ before ++ relation :: after, (part.flatMap Relation.vars).count v = _ :=
    fun part hpart => count_flatMap_vars (fun r hr => horderly.named r (hpart hr)) hsize
  constructor
  · rw [← List.count_eq_zero, hcount before (List.subset_append_left _ _)]
    omega
  · rw [hcount after fun r hr => List.mem_append_right _ (List.mem_cons_of_mem _ hr)]
    omega

/-- The relations have the shape that statements give them, where the new variables begin with
`next`: those of the calls in a value, each behind those in its arguments, and then the
assignment. -/
structure Shape (table : SymbolTable) (next : Nat) (stmts : List Statement)
    (relations : List Relation) : Prop where
  /-- Every argument and every value has the variable of its own reference or call. -/
  relations_eq : relations = table.relationsOf next stmts
  /-- One relation for each call and each assignment; its other variables are those of names. -/
  stands : List.Forall₂ (table.Stands relations) relations (stmts.flatMap Statement.sites)
  results_eq : relations.flatMap Relation.results =
    newVars next (stmts.flatMap Statement.calls).length
  used_once : ∀ before relation after, relations = before ++ relation :: after →
    ∀ v ∈ relation.results,
      v ∉ before.flatMap Relation.vars ∧ (after.flatMap Relation.vars).count v = 1

theorem shape_relationsOf (hnext : table.size ≤ next)
    (hscope : ∀ statement ∈ stmts, statement.InScope table) :
    table.Shape next stmts (table.relationsOf next stmts) where
  relations_eq := rfl
  stands := stands_relationsOf hnext hscope (List.Subset.refl _)
  results_eq := results_relationsOf stmts
  used_once := fun _ _ _ h _ hv => result_used_once hnext hscope h hv

end SymbolTable

theorem Trace.writeAll_accepting {trace : Trace} (h : trace.Accepting) (script : List Line) :
    ∃ trace', writeAll script trace = .ok () trace' := by
  induction script generalizing trace with
  | nil => exact ⟨trace, rfl⟩
  | cons line rest ih =>
    obtain ⟨_, after, hwrite, haccepting⟩ := (write_accepting h line.1 line.2).exists_ok
    rw [writeAll_cons]
    simp only [Bind.bind, EStateM.bind, hwrite]
    exact ih haccepting

/-- What is known of a run without a trace is known of the run with any trace, unless the trace
gets full. -/
theorem Scripted.ends_of_off {α : Type} {x : CheckerM α} {checker : Checker}
    {good : α → Checker → Prop} {bad : Failure → Prop} (hx : Scripted x checker)
    (hoff : Ends x (withTrace checker Trace.off) good fun failure _ => bad failure)
    (hgood : ∀ value after trace, good value after → good value (withTrace after trace)) :
    Ends x checker good fun failure _ =>
      bad failure ∨ failure = .fault .traceFull ∧ ¬ checker.session.trace.Accepting := by
  obtain ⟨script, ending, hperforms⟩ := hx
  have hrun : x (withTrace checker Trace.off) = retrace ending Trace.off := by
    have hsilent := hperforms Trace.off
    rw [Trace.writeAll_off] at hsilent
    exact hsilent
  have hown := hperforms checker.session.trace
  have hself : withTrace checker checker.session.trace = checker := rfl
  rw [hself] at hown
  cases hwrites : Trace.writeAll script checker.session.trace with
  | ok _ trace =>
    simp only [hwrites] at hown
    cases ending with
    | ok value after =>
      have hsilent := hoff.good_of_eq hrun
      exact Ends.of_eq_ok hown (hgood value (withTrace after Trace.off) trace hsilent)
    | error failure after => exact Ends.of_eq_error hown (Or.inl (hoff.bad_of_eq hrun))
  | error failure trace =>
    simp only [hwrites] at hown
    obtain ⟨after, hstops⟩ := hown
    refine Ends.of_eq_error hstops (Or.inr ⟨Trace.writeAll_error hwrites, fun haccepting => ?_⟩)
    obtain ⟨trace', hok⟩ := Trace.writeAll_accepting haccepting script
    rw [hok] at hwrites
    cases hwrites

namespace CheckerM

theorem generate_ends_traced (checker : Checker) {stmts : List Statement}
    (hknown : ∀ statement ∈ stmts, statement.isKnown = true) :
    Ends (generate stmts) checker
      (fun _ after => (∀ statement ∈ stmts, statement.InScope checker.table) ∧
        after.table = checker.table ∧
        after.relations = checker.relations ++
          checker.table.relationsOf checker.arena.size stmts ∧
        after.arena = checker.arena.grow (stmts.flatMap Statement.calls).length)
      fun failure _ =>
        FailsAt (stmts.flatMap fun statement => statement.offences checker.table) failure ∨
          failure = .fault .traceFull ∧ ¬ checker.session.trace.Accepting := by
  refine Scripted.ends_of_off (generate_scripted stmts checker) ?_ fun _ _ _ h => h
  have hat : (withTrace checker Trace.off).At checker.table checker.relations checker.arena :=
    ⟨⟨rfl, Trace.off_accepting⟩, rfl, rfl⟩
  refine (generate_ends stmts hknown hat).mono ?_ fun _ _ h => h
  intro _ after h
  exact ⟨h.1, h.2.table_eq, h.2.relations_eq, h.2.session.arena_eq⟩

end CheckerM

/-- What generation does, for any run whose symbols have variables. It fails if a name that is
assigned, called or referred to is not in the table or an expression has no type, and only then;
the error is the first offence. If it succeeds the symbols have the variables that they had, the
arena has one more unbound variable for each call, nothing that was known has changed, and the
relations that are added have the shape of the statements. -/
theorem generation_follows_statements {checker : Checker} (hregistered : checker.Registered)
    {stmts : List Statement} (hknown : ∀ statement ∈ stmts, statement.isKnown = true) :
    let offences := stmts.flatMap fun statement => statement.offences checker.table
    (offences ≠ [] ↔ ∃ statement ∈ stmts, ¬ statement.isSupported = true ∨
      ∃ name ∈ statement.names, name ∉ checker.table.names) ∧
    (checker.session.trace.Accepting →
      ((∃ failure after, CheckerM.generate stmts checker = .error failure after) ↔
        offences ≠ [])) ∧
    (∀ failure after, CheckerM.generate stmts checker = .error failure after →
      (∃ error, failure = .error error ∧ offences.head? = some error) ∨
        failure = .fault .traceFull ∧ ¬ checker.session.trace.Accepting) ∧
    ∀ after, CheckerM.generate stmts checker = .ok () after →
      offences = [] ∧ after.table = checker.table ∧ after.Registered ∧
        after.arena.entries = checker.arena.entries ++
          Array.replicate (stmts.flatMap Statement.calls).length none ∧
        (∀ name ∈ checker.table.names, checker.varOf (checker.table.symbolOf name) =
          .ok (checker.table.var name)) ∧
        ∃ added, after.relations = checker.relations ++ added ∧
          checker.table.Shape checker.arena.size stmts added := by
  intro offences
  have hends := CheckerM.generate_ends_traced checker hknown
  have hoffences : offences = [] ↔ ∀ statement ∈ stmts, statement.InScope checker.table := by
    simp only [offences, List.flatMap_eq_nil_iff, Statement.offences_eq_nil_iff]
  refine ⟨?_, fun haccepting => ⟨?_, fun hne => ?_⟩, ?_, ?_⟩
  · rw [ne_eq, hoffences]
    simp only [Statement.inScope_iff, Classical.not_forall, not_and_or, exists_prop]
  · rintro ⟨failure, after, hrun⟩
    rcases hends.bad_of_eq hrun with ⟨error, rest, hfirst, -⟩ | ⟨-, hfull⟩
    · intro hnil
      cases hfirst.symm.trans hnil
    · exact absurd haccepting hfull
  · cases hrun : CheckerM.generate stmts checker with
    | ok _ after => exact absurd (hoffences.mpr (hends.good_of_eq hrun).1) hne
    | error failure after => exact ⟨failure, after, rfl⟩
  · intro failure after hrun
    refine (hends.bad_of_eq hrun).imp ?_ id
    rintro ⟨error, rest, hfirst, rfl⟩
    exact ⟨error, rfl, congrArg List.head? hfirst⟩
  · intro after hrun
    obtain ⟨hscope, hsame, hrelations, harena⟩ := hends.good_of_eq hrun
    refine ⟨hoffences.mpr hscope, hsame, hregistered.mono hsame ?_, ?_, ?_, _, hrelations, ?_⟩
    · rw [harena, Arena.size_grow]
      exact Nat.le_add_right _ _
    · rw [harena, Arena.grow]
    · intro name hname
      obtain ⟨hmem, hsymbol⟩ := SymbolTable.symbolOf_mem hname
      rw [Checker.varOf_eq hmem, hsymbol]
    · exact SymbolTable.shape_relationsOf (Checker.registered_iff.mp hregistered) hscope

/-- `y = f(f(x), x)` adds two calls and an assignment, and the arena gains two variables. -/
theorem generation_follows_statements_of_nested_call :
    let f : Identifier := ⟨[102]⟩
    let x : Identifier := ⟨[120]⟩
    let y : Identifier := ⟨[121]⟩
    let symbols : List Symbol := [.variable ⟨x, none⟩, .variable ⟨y, none⟩,
      .function f ⟨[], .unresolvable⟩]
    let table := (SymbolTable.ofSymbols symbols).toOption.getD .empty
    let stmts : List Statement := [.assign y (.call f [.call f [.ref x], .ref x])]
    SymbolTable.ofSymbols symbols = .ok table ∧ (Checker.ofTable table Trace.off).Registered ∧
      ∃ after, CheckerM.generate stmts (Checker.ofTable table Trace.off) = .ok () after ∧
        after.Registered ∧ after.arena.entries = Array.replicate 5 none ∧
        after.relations.length = 3 ∧ table.Shape 3 stmts after.relations := by
  intro f x y symbols table stmts
  have htable : SymbolTable.ofSymbols symbols = .ok table := by rfl
  have hregistered := Checker.registered_ofTable table Trace.off
  obtain ⟨_, after, hrun, hlength⟩ : ∃ value after,
      CheckerM.generate stmts (Checker.ofTable table Trace.off) = .ok value after ∧
        after.relations.length = 3 := Ends.exists_ok (by decide +kernel)
  have hknown : ∀ statement ∈ stmts, statement.isKnown = true := by decide
  obtain ⟨-, -, -, hok⟩ := generation_follows_statements hregistered hknown
  obtain ⟨-, -, hregistered', harena, -, added, hadded, hshape⟩ := hok after hrun
  obtain rfl : after.relations = added := hadded
  exact ⟨htable, hregistered, after, hrun, hregistered', harena, hlength, hshape⟩

end Typeflow
