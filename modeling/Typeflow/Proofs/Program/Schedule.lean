import Typeflow.Proofs.Program.Relations

/-!
The order of the relations of a program. Each call takes the next new variable for its result, and
a relation uses no variable that a later call takes. So the result of a call is not among its own
arguments, no two calls share a result, and a call whose result another call uses stands before
it.
-/

namespace Typeflow

/-- The variables that a relation asks about by name: a call asks for its callee, and an
assignment for its target. -/
def Relation.Named (table : SymbolTable) : Relation → Prop
  | .applies callee _ _ => ∃ name ∈ table.names, callee = table.var name
  | .equates target _ targetSymbol _ _ =>
    ∃ name ∈ table.names, target = table.var name ∧ targetSymbol = table.symbolOf name

namespace SymbolTable

/-- The relations take their new variables one by one, from the one with index `next` on, and use
those that were taken before. -/
def Scheduled (table : SymbolTable) : Nat → List Relation → Prop
  | _, [] => True
  | next, relation :: rest =>
    relation.Named table ∧ (∀ v ∈ relation.inputs, v.index < next) ∧
      (∀ v ∈ relation.results, v.index = next) ∧
      table.Scheduled (next + relation.results.length) rest

/-- What the schedule says about any two relations of a list. It stays true when relations are
taken out of the list. -/
structure Orderly (table : SymbolTable) (relations : List Relation) : Prop where
  named : ∀ relation ∈ relations, relation.Named table
  fresh : ∀ relation ∈ relations, ∀ v ∈ relation.results, table.size ≤ v.index
  own : ∀ relation ∈ relations, ∀ v ∈ relation.results, v ∉ relation.inputs
  later : relations.Pairwise fun relation relation' =>
    ∀ v ∈ relation'.results, v ∉ relation.inputs ∧ v ∉ relation.results

variable {table : SymbolTable} {next : Nat} {relations : List Relation}

theorem scheduled_append {relations' : List Relation} :
    table.Scheduled next (relations ++ relations') ↔ table.Scheduled next relations ∧
      table.Scheduled (next + (relations.flatMap Relation.results).length) relations' := by
  induction relations generalizing next with
  | nil => simp [Scheduled]
  | cons first rest ih =>
    simp only [List.cons_append, Scheduled, ih, List.flatMap_cons, List.length_append,
      Nat.add_assoc, and_assoc]

theorem valueVar_lt (hnext : table.size ≤ next) {expr : Expr} (hscope : expr.InScope table) :
    (table.valueVar next expr).index < next + expr.calls.length := by
  cases expr with
  | ref name =>
    have hlt := var_lt (Expr.inScope_ref.mp hscope)
    simp only [valueVar, Expr.calls, List.length_nil]
    omega
  | call callee args =>
    simp only [valueVar, Expr.calls, List.length_append, List.length_singleton]
    omega
  | unsupported form => exact absurd hscope Expr.not_inScope_unsupported

theorem valueVars_lt (hnext : table.size ≤ next) {args : List Expr}
    (hscope : ∀ arg ∈ args, arg.InScope table) :
    ∀ v ∈ table.valueVars next args, v.index < next + (Expr.callsList args).length := by
  induction args generalizing next with
  | nil => simp [valueVars]
  | cons first rest ih =>
    obtain ⟨hfirst, hrest⟩ := List.forall_mem_cons.mp hscope
    have hlt := valueVar_lt hnext hfirst
    have hrest' := ih (by omega : table.size ≤ next + first.calls.length) hrest
    intro v hv
    rw [Expr.callsList, List.length_append]
    rcases List.mem_cons.mp hv with heq | hv
    · subst heq
      omega
    · have hv' := hrest' v hv
      omega

private theorem scheduled_callRelationsList {args : List Expr}
    (harg : ∀ arg ∈ args, ∀ next, table.size ≤ next →
      table.Scheduled next (table.callRelations next arg)) (hnext : table.size ≤ next) :
    table.Scheduled next (table.callRelationsList next args) := by
  induction args generalizing next with
  | nil => trivial
  | cons first rest ih =>
    obtain ⟨hfirst, hrest⟩ := List.forall_mem_cons.mp harg
    rw [callRelationsList, scheduled_append, results_callRelations, length_newVars]
    exact ⟨hfirst next hnext, ih hrest (by omega)⟩

theorem scheduled_callRelations (hnext : table.size ≤ next) {expr : Expr}
    (hscope : expr.InScope table) : table.Scheduled next (table.callRelations next expr) := by
  induction expr using Expr.inductionOn generalizing next with
  | ref name => trivial
  | call callee args ih =>
    obtain ⟨hcallee, hargs⟩ := Expr.inScope_call.mp hscope
    rw [callRelations, scheduled_append, results_callRelationsList, length_newVars]
    refine ⟨?_, ⟨callee, hcallee, rfl⟩, ?_, ?_, trivial⟩
    · exact scheduled_callRelationsList
        (fun arg harg _ hnext => ih arg harg hnext (hargs arg harg)) hnext
    · exact valueVars_lt hnext hargs
    · simp [Relation.results]
  | unsupported form => trivial

theorem scheduled_relationsOf (hnext : table.size ≤ next) {stmts : List Statement}
    (hscope : ∀ statement ∈ stmts, statement.InScope table) :
    table.Scheduled next (table.relationsOf next stmts) := by
  induction stmts generalizing next with
  | nil => trivial
  | cons first rest ih =>
    obtain ⟨hfirst, hrest⟩ := List.forall_mem_cons.mp hscope
    rw [relationsOf, scheduled_append, results_statementRelations, length_newVars]
    refine ⟨?_, ih (by omega) hrest⟩
    unfold statementRelations
    cases hassign : first.assignment? with
    | none => trivial
    | some pair =>
      obtain ⟨htarget, hvalue⟩ := hfirst pair.1 pair.2 hassign
      simp only [scheduled_append, results_callRelations, length_newVars]
      refine ⟨scheduled_callRelations hnext hvalue, ⟨pair.1, htarget, rfl, rfl⟩, ?_, ?_, trivial⟩
      · intro v hv
        rw [List.mem_singleton.mp hv]
        exact valueVar_lt hnext hvalue
      · simp [Relation.results]

theorem Scheduled.le_results (h : table.Scheduled next relations) :
    ∀ relation ∈ relations, ∀ v ∈ relation.results, (next : Int) ≤ v.index := by
  induction relations generalizing next with
  | nil => simp
  | cons first rest ih =>
    obtain ⟨_, _, hresults, hrest⟩ := h
    refine List.forall_mem_cons.mpr ⟨fun v hv => Int.le_of_eq (hresults v hv).symm, ?_⟩
    intro relation hrelation v hv
    have hle := ih hrest relation hrelation v hv
    omega

theorem Scheduled.orderly (h : table.Scheduled next relations) (hnext : table.size ≤ next) :
    table.Orderly relations := by
  induction relations generalizing next with
  | nil => exact ⟨by simp, by simp, by simp, .nil⟩
  | cons first rest ih =>
    obtain ⟨hnamed, hinputs, hresults, hrest⟩ := h
    have horderly := ih hrest (by omega)
    refine ⟨?_, ?_, ?_, List.pairwise_cons.mpr ⟨?_, horderly.later⟩⟩
    · exact List.forall_mem_cons.mpr ⟨hnamed, horderly.named⟩
    · refine List.forall_mem_cons.mpr ⟨fun v hv => ?_, horderly.fresh⟩
      have heq := hresults v hv
      omega
    · refine List.forall_mem_cons.mpr ⟨fun v hv hinput => ?_, horderly.own⟩
      have heq := hresults v hv
      have hlt := hinputs v hinput
      omega
    · -- A later relation takes a variable behind those that this one uses and takes.
      intro relation hrelation v hv
      have hle := hrest.le_results relation hrelation v hv
      refine ⟨fun hinput => ?_, fun hresult => ?_⟩
      · have hlt := hinputs v hinput
        omega
      · have heq := hresults v hresult
        have hpos := List.length_pos_of_mem hresult
        omega

theorem Orderly.sublist {relations' : List Relation} (h : table.Orderly relations)
    (hsub : relations'.Sublist relations) : table.Orderly relations' :=
  ⟨fun relation hmem => h.named relation (hsub.subset hmem),
    fun relation hmem => h.fresh relation (hsub.subset hmem),
    fun relation hmem => h.own relation (hsub.subset hmem), h.later.sublist hsub⟩

/-- A relation shares its result with no other, and only those before it can give it a value to
use. -/
theorem Orderly.split {before after : List Relation} {relation other : Relation}
    (h : table.Orderly (before ++ relation :: after)) (hmem : other ∈ before ++ after)
    {v : TypeVar} (hv : v ∈ other.results) :
    v ∉ relation.results ∧ (v ∈ relation.inputs → other ∈ before) := by
  obtain ⟨_, hafter, hbefore⟩ := List.pairwise_append.mp h.later
  rcases List.mem_append.mp hmem with hmem | hmem
  · refine ⟨fun hresult => ?_, fun _ => hmem⟩
    exact (hbefore other hmem relation List.mem_cons_self v hresult).2 hv
  · have hlater := (List.pairwise_cons.mp hafter).1 other hmem v hv
    exact ⟨hlater.2, fun hinput => absurd hinput hlater.1⟩

end SymbolTable

end Typeflow
