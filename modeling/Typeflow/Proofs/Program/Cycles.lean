import Typeflow.Proofs.CycleSearch
import Typeflow.Proofs.Program.Order
import Typeflow.Proofs.Sequence
import Typeflow.Proofs.Tracing

/-!
The reported cycles against the assignments that wait for each other. A variable symbol waits on a
symbol if a pending relation belongs to an assignment of the second to the first, or of a call of
it. The search runs over type variables, among which the results of calls have no symbol: such a
variable is used by one assignment and belongs to one call, so it can be passed over. A cycle that
is reported is one of symbols that wait on each other, and every such cycle shares a step with one
that is reported.
-/

namespace Typeflow

open Checker (waiting)

/-- The first symbol is a variable, and a pending relation would determine it from an assignment
of the second symbol or of a call of it. -/
def Solution.WaitsOn (solution : Solution) (s t : Symbol) : Prop :=
  (∃ declaration, s = .variable declaration) ∧ t ∈ solution.table.symbols ∧
    ∃ target other otherSymbol statement value,
      .equates target other s otherSymbol statement ∈ solution.pending ∧
      statement.assignment? = some (s.name, value) ∧
      (value = .ref t.name ∨ ∃ args, value = .call t.name args)

/-- The variables that are waited for among the pending relations. -/
abbrev Solution.graph (solution : Solution) : Graph TypeVar := waiting solution.pending

abbrev Solution.varCycles (solution : Solution) : List (List TypeVar) :=
  solution.graph.cyclesFrom solution.graph.sources

theorem edge_waiting {relations : List Relation} {u v : TypeVar} :
    (waiting relations).Edge u v ↔
      ∃ relation ∈ relations, relation.determines = u ∧ relation.waitsOn = v := by
  have hfold : ∀ (relations : List Relation) (graph : Graph TypeVar),
      (relations.foldl (fun graph relation =>
        graph.addEdge relation.determines relation.waitsOn) graph).Edge u v ↔
      graph.Edge u v ∨
        ∃ relation ∈ relations, relation.determines = u ∧ relation.waitsOn = v := by
    intro relations
    induction relations with
    | nil => simp
    | cons first rest ih =>
      intro graph
      rw [List.foldl_cons, ih, Graph.edge_addEdge, or_assoc]
      simp [eq_comm]
  have hempty : ¬ (⟨[]⟩ : Graph TypeVar).Edge u v := by simp [Graph.Edge, Graph.successors]
  unfold waiting
  rw [hfold, or_iff_right hempty]

/-- The solution is that of a run on these statements. -/
structure Solution.Solves (solution : Solution) (catalogue : Catalogue) (stmts : List Statement)
    (checker : Checker) : Prop where
  lowered : Lowered catalogue (stmts.flatMap Statement.sites) checker
  relations_eq : checker.relations = checker.table.relationsOf checker.table.size stmts
  inScope : ∀ statement ∈ stmts, statement.InScope checker.table
  declared : ∀ symbol ∈ checker.table.symbols, (∃ declaration, symbol = .variable declaration) ∨
    ∃ name signature, symbol = .function name signature
  consistent : Consistent checker
  describes : solution.Describes checker
  cycles_eq : solution.cycles = { checker with relations := solution.pending }.pendingCycles

namespace Checker

variable {checker : Checker} {v : TypeVar}

theorem owner?_var {name : Identifier} (hname : name ∈ checker.table.names) :
    checker.owner? (checker.table.var name) = some (checker.table.symbolOf name) := by
  obtain ⟨hmem, hsymbol⟩ := SymbolTable.symbolOf_mem hname
  exact owner?_eq_some_iff.mpr ⟨hmem, by rw [hsymbol]⟩

theorem owner?_new (hnew : checker.table.size ≤ v.index) : checker.owner? v = none := by
  cases howner : checker.owner? v with
  | none => rfl
  | some symbol =>
    obtain ⟨hmem, rfl⟩ := owner?_eq_some_iff.mp howner
    exact absurd hnew (Lowered.var_not_new (SymbolTable.name_mem hmem))

end Checker

namespace Solution.Solves

variable {solution : Solution} {catalogue : Catalogue} {stmts : List Statement}
  {checker : Checker}
  {u v r w : TypeVar} {s t symbol : Symbol}

theorem mem_pending_iff (h : solution.Solves catalogue stmts checker) {relation : Relation} :
    relation ∈ solution.pending ↔ relation ∈ checker.relations ∧ Blocked checker relation := by
  rw [h.describes.pending_eq]
  unfold blockedRelations
  simp

theorem assignment_of_equates (h : solution.Solves catalogue stmts checker)
    {target other : TypeVar} {targetSymbol otherSymbol : Symbol} {statement : Statement}
    (hmem : .equates target other targetSymbol otherSymbol statement ∈ checker.relations) :
    ∃ name value, statement.assignment? = some (name, value) ∧ name ∈ checker.table.names ∧
      value.InScope checker.table ∧ target = checker.table.var name ∧
      targetSymbol = checker.table.symbolOf name ∧
      checker.table.Denotes checker.relations other value := by
  rw [h.relations_eq] at hmem ⊢
  exact SymbolTable.assignment_of_mem_relationsOf (Nat.le_refl _) h.inScope (List.Subset.refl _)
    hmem

/-- How an edge arises: from an assignment, whose target has a symbol, or from a call, whose
result has none. -/
theorem edge_cases (h : solution.Solves catalogue stmts checker)
    (hedge : solution.graph.Edge u v) :
    (∃ name value otherSymbol statement, name ∈ checker.table.names ∧ u = checker.table.var name ∧
      .equates u v (checker.table.symbolOf name) otherSymbol statement ∈ solution.pending ∧
      statement.assignment? = some (name, value) ∧ value.InScope checker.table ∧
      checker.table.Denotes checker.relations v value) ∨
    ∃ name vars, name ∈ checker.table.names ∧ v = checker.table.var name ∧
      checker.table.size ≤ u.index ∧ .applies v vars u ∈ checker.relations := by
  obtain ⟨relation, hmem, rfl, rfl⟩ := edge_waiting.mp hedge
  have hrelation := (h.mem_pending_iff.mp hmem).1
  cases relation with
  | equates target other targetSymbol otherSymbol statement =>
    obtain ⟨name, value, hassign, hname, hvalue, htarget, rfl, hdenotes⟩ :=
      h.assignment_of_equates hrelation
    exact Or.inl ⟨name, value, otherSymbol, statement, hname, htarget, hmem, hassign, hvalue,
      hdenotes⟩
  | applies callee vars result =>
    obtain ⟨name, _, _, hcallee, hname, hnew, _⟩ := h.lowered.call_of_applies hrelation
    exact Or.inr ⟨name, vars, hname, hcallee, hnew, hrelation⟩

theorem assignment_of_edge (h : solution.Solves catalogue stmts checker)
    (hedge : solution.graph.Edge u v) (hu : checker.owner? u = some s) :
    ∃ value otherSymbol statement, .equates u v s otherSymbol statement ∈ solution.pending ∧
      statement.assignment? = some (s.name, value) ∧ value.InScope checker.table ∧
      checker.table.Denotes checker.relations v value := by
  rcases h.edge_cases hedge with ⟨name, value, otherSymbol, statement, hname, rfl, hmem, hassign,
    hvalue, hdenotes⟩ | ⟨_, _, _, _, hnew, _⟩
  · rw [Checker.owner?_var hname] at hu
    obtain rfl := Option.some.inj hu
    rw [(SymbolTable.symbolOf_mem hname).2]
    exact ⟨value, otherSymbol, statement, hmem, hassign, hvalue, hdenotes⟩
  · rw [Checker.owner?_new hnew] at hu
    cases hu

/-- An edge from a variable without a symbol belongs to the call that the variable is the result
of. -/
theorem call_of_edge (h : solution.Solves catalogue stmts checker)
    (hedge : solution.graph.Edge u v) (hu : checker.owner? u = none) :
    ∃ name vars, name ∈ checker.table.names ∧ v = checker.table.var name ∧
      .applies v vars u ∈ checker.relations := by
  rcases h.edge_cases hedge with ⟨name, _, _, _, hname, rfl, _⟩ | ⟨name, vars, hname, hv, _, hmem⟩
  · rw [Checker.owner?_var hname] at hu
    cases hu
  · exact ⟨name, vars, hname, hv, hmem⟩

theorem unresolvable_of_edge (h : solution.Solves catalogue stmts checker)
    (hedge : solution.graph.Edge u v) (hv : checker.owner? v = some t) :
    (∃ declaration, t = .variable declaration) ∧ solution.typeOf t = .ok .unresolvable := by
  obtain ⟨relation, hmem, _, rfl⟩ := edge_waiting.mp hedge
  have hblocked := (h.mem_pending_iff.mp hmem).2
  obtain ⟨ht, hvar⟩ := Checker.owner?_eq_some_iff.mp hv
  constructor
  · rcases h.declared t ht with hvariable | ⟨name, signature, rfl⟩
    · exact hvariable
    · refine absurd (Fact.builtin ht (Checker.varOf_eq ht)) ?_
      rw [← hvar]
      exact hblocked _
  · obtain ⟨known, hfacts, htypes⟩ := h.describes.types_eq
    rw [Solution.typeOf_of_types htypes ht]
    cases hknown : known (checker.table.var t.name) with
    | none => rfl
    | some ty =>
      rw [← hvar] at hknown
      exact absurd ((hfacts _ _).mp hknown) (hblocked ty)

/-- The edge leads on from a variable that is itself waited for. -/
def Awaited (solution : Solution) (u v : TypeVar) : Prop :=
  solution.graph.Edge u v ∧ ∃ w, solution.graph.Edge w u

/-- The symbols of variables are related by waiting as the variables are by edges. -/
theorem labels (h : solution.Solves catalogue stmts checker) :
    Labels (Awaited solution) checker.owner? solution.WaitsOn := by
  have htable : ∀ {v t}, checker.owner? v = some t → t ∈ solution.table.symbols := by
    intro v t hv
    rw [h.describes.table_eq]
    exact (Checker.owner?_eq_some_iff.mp hv).1
  refine ⟨?_, ?_, ?_⟩
  · intro u v s t hedge hu hv
    obtain ⟨hedge, w, hw⟩ := hedge
    obtain ⟨value, otherSymbol, statement, hmem, hassign, _, hdenotes⟩ :=
      h.assignment_of_edge hedge hu
    obtain ⟨ht, hvar⟩ := Checker.owner?_eq_some_iff.mp hv
    have hname := SymbolTable.name_mem ht
    obtain ⟨name, rfl, hname'⟩ := Lowered.denotes_old_of_ref
      (hvar ▸ Lowered.var_not_new hname) hdenotes
    rw [hvar, SymbolTable.var_inj hname] at hname'
    exact ⟨(h.unresolvable_of_edge hw hu).1, htable hv, u, v, otherSymbol, statement, _, hmem,
      hassign, Or.inl (by rw [hname'])⟩
  · intro u r v s t hedge hedge' hu hr hv
    obtain ⟨hedge, w, hw⟩ := hedge
    obtain ⟨value, otherSymbol, statement, hmem, hassign, hscope, hdenotes⟩ :=
      h.assignment_of_edge hedge hu
    obtain ⟨name, vars, _, _, hcall⟩ := h.call_of_edge hedge'.1 hr
    obtain ⟨ht, hvar⟩ := Checker.owner?_eq_some_iff.mp hv
    obtain ⟨_, _, _, _, _, hnew, _⟩ := h.lowered.call_of_applies hcall
    obtain ⟨callee, args, vars', rfl, hcall', _⟩ :=
      Lowered.denotes_new_of_call hscope hnew hdenotes
    -- The variable is the result of one call only, so the callee is the symbol after it.
    have hcallee := (h.lowered.result_unique hcall hcall').1
    rw [hvar, SymbolTable.var_inj (SymbolTable.name_mem ht)] at hcallee
    exact ⟨(h.unresolvable_of_edge hw hu).1, htable hv, u, r, otherSymbol, statement, _, hmem,
      hassign, Or.inr ⟨args, by rw [hcallee]⟩⟩
  · intro r v hedge hr
    obtain ⟨name, vars, hname, rfl, _⟩ := h.call_of_edge hedge.1 hr
    exact ⟨_, Checker.owner?_var hname⟩

theorem edge_unique_of_none (h : solution.Solves catalogue stmts checker)
    (hr : checker.owner? r = none) (hv : solution.graph.Edge r v)
    (hw : solution.graph.Edge r w) : v = w := by
  obtain ⟨_, _, _, _, hcall⟩ := h.call_of_edge hv hr
  obtain ⟨_, _, _, _, hcall'⟩ := h.call_of_edge hw hr
  exact (h.lowered.result_unique hcall hcall').1

theorem edge_to_unique_of_none (h : solution.Solves catalogue stmts checker)
    (hr : checker.owner? r = none) (hu : solution.graph.Edge u r)
    (hw : solution.graph.Edge w r) : u = w := by
  have hassignment : ∀ {u}, solution.graph.Edge u r →
      checker.table.size ≤ r.index ∧ ∃ s otherSymbol statement,
        .equates u r s otherSymbol statement ∈ checker.relations := by
    intro u hu
    rcases h.edge_cases hu with ⟨name, value, otherSymbol, statement, _, _, hmem, _, hscope,
      hdenotes⟩ | ⟨name, _, hname, rfl, _⟩
    · refine ⟨?_, _, _, _, (h.mem_pending_iff.mp hmem).1⟩
      by_contra hold
      obtain ⟨name', rfl, rfl⟩ := Lowered.denotes_old_of_ref hold hdenotes
      rw [Checker.owner?_var (Expr.inScope_ref.mp hscope)] at hr
      cases hr
    · rw [Checker.owner?_var hname] at hr
      cases hr
  obtain ⟨hnew, _, _, _, hmem⟩ := hassignment hu
  obtain ⟨_, _, _, _, hmem'⟩ := hassignment hw
  have heq := h.lowered.use_unique hnew hmem hmem' (List.mem_singleton_self r)
    (List.mem_singleton_self r)
  injection heq

/-- A symbol that waits on another is joined to it by an edge, or by two through the result of a
call. -/
theorem edges_of_waitsOn (h : solution.Solves catalogue stmts checker)
    (hwaits : solution.WaitsOn s t) :
    checker.owner? (checker.table.var s.name) = some s ∧
      checker.owner? (checker.table.var t.name) = some t ∧
      (solution.graph.Edge (checker.table.var s.name) (checker.table.var t.name) ∨
        ∃ r, checker.owner? r = none ∧
          solution.graph.Edge (checker.table.var s.name) r ∧
          solution.graph.Edge r (checker.table.var t.name)) := by
  obtain ⟨_, ht, target, other, otherSymbol, statement, value, hmem, hassign, hvalue⟩ := hwaits
  obtain ⟨hrelation, hblocked⟩ := h.mem_pending_iff.mp hmem
  obtain ⟨name, value', hassign', hname, hscope, rfl, hs, hdenotes⟩ :=
    h.assignment_of_equates hrelation
  rw [hassign] at hassign'
  obtain ⟨rfl, rfl⟩ := Prod.mk.inj (Option.some.inj hassign')
  rw [h.describes.table_eq] at ht
  have hedge : solution.graph.Edge _ other := edge_waiting.mpr ⟨_, hmem, rfl, rfl⟩
  refine ⟨?_, ?_, ?_⟩
  · rw [Checker.owner?_var hname, ← hs]
  · exact Checker.owner?_eq_some_iff.mpr ⟨ht, rfl⟩
  · rcases hvalue with rfl | ⟨args, rfl⟩
    · obtain rfl : other = checker.table.var t.name := hdenotes
      exact Or.inl hedge
    · obtain ⟨hnew, vars, hcall, _⟩ := hdenotes
      refine Or.inr ⟨other, Checker.owner?_new hnew, hedge, edge_waiting.mpr
        ⟨.applies (checker.table.var t.name) vars other, ?_, rfl, rfl⟩⟩
      refine h.mem_pending_iff.mpr ⟨hcall, fun ty hfact => ?_⟩
      -- If the callee were known, so would be the result of the call.
      obtain ⟨params, out, rfl, hlength⟩ := h.consistent.callable _ _ _ _ hcall hfact
      exact hblocked out (Fact.result hcall hfact hlength)

/-- The entries are the symbols of the cycles that the search finds. -/
theorem mem_cycles_iff (h : solution.Solves catalogue stmts checker) {entry : List Symbol} :
    entry ∈ solution.cycles ↔ entry ≠ [] ∧
      ∃ cycle ∈ solution.varCycles,
        cycle.filterMap checker.owner? = entry := by
  have hnodup : ∀ cycle ∈ solution.varCycles,
      uniq (cycle.filterMap checker.owner?) = cycle.filterMap checker.owner? := by
    intro cycle hcycle
    refine uniq_of_nodup ((Graph.isCycle_of_mem_cyclesFrom cycle hcycle).nodup.filterMap ?_)
    intro u v symbol hu hv
    rw [(Checker.owner?_eq_some_iff.mp hu).2,
      (Checker.owner?_eq_some_iff.mp hv).2]
  rw [h.cycles_eq]
  unfold Checker.pendingCycles
  rw [List.mem_filterMap]
  constructor
  · intro hentry
    obtain ⟨cycle, hcycle, hsome⟩ := hentry
    have hsame : uniq (cycle.filterMap checker.owner?) = _ := hnodup cycle hcycle
    split at hsome
    · cases hsome
    · rename_i hne
      obtain rfl := Option.some.inj hsome
      exact ⟨hne, cycle, hcycle, hsame.symm⟩
  · intro hentry
    obtain ⟨hne, cycle, hcycle, rfl⟩ := hentry
    refine ⟨cycle, hcycle, ?_⟩
    have hsame : uniq (cycle.filterMap checker.owner?) = _ := hnodup cycle hcycle
    split
    · rename_i hnil
      exact absurd (hsame.symm.trans hnil) hne
    · exact congrArg some hsame

/-- An entry of the reported cycles, closed by the step from its last symbol to its first. -/
theorem exists_entry (h : solution.Solves catalogue stmts checker) {cycle : List TypeVar}
    (hcycle : cycle ∈ solution.varCycles)
    (hfirst : (cycle.filterMap checker.owner?).head? = some t)
    (hlast : (cycle.filterMap checker.owner?).getLast? = some s) :
    ∃ entry ∈ solution.cycles, (s, t) ∈ ringSteps entry := by
  refine ⟨_, h.mem_cycles_iff.mpr ⟨?_, cycle, hcycle, rfl⟩, mem_ringSteps hfirst hlast⟩
  intro hnil
  rw [hnil] at hfirst
  cases hfirst

/-- Where one symbol waits on another, an entry has this step or all edges of the step are
open. -/
theorem step_or_open (h : solution.Solves catalogue stmts checker)
    (hwaits : solution.WaitsOn s t) :
    (∃ entry ∈ solution.cycles, (s, t) ∈ ringSteps entry) ∨
      Relation.TransGen (solution.graph.OpenEdge
        solution.varCycles)
        (checker.table.var t.name) (checker.table.var s.name) := by
  obtain ⟨hs, ht, hedge | ⟨r, hr, hedge, hedge'⟩⟩ := h.edges_of_waitsOn hwaits
  · by_cases hcloses : Graph.Closes solution.varCycles (checker.table.var s.name)
        (checker.table.var t.name)
    · obtain ⟨cycle, hcycle, hfirst, hlast⟩ := hcloses
      exact Or.inl (h.exists_entry hcycle (head?_filterMap_of_label hfirst ht)
        (getLast?_filterMap_of_label hlast hs))
    · exact Or.inr (.single ⟨hedge, hcloses⟩)
  · by_cases hcloses : Graph.Closes solution.varCycles (checker.table.var s.name) r
    · obtain ⟨cycle, hcycle, hfirst, hlast⟩ := hcloses
      have hring := (Graph.isCycle_of_mem_cyclesFrom cycle hcycle).edge
      refine Or.inl (h.exists_entry hcycle (head?_filterMap_of_none hring hfirst hr hlast hs ?_)
        (getLast?_filterMap_of_label hlast hs))
      intro w hw
      rw [← h.edge_unique_of_none hr hedge' hw]
      exact ht
    · by_cases hcloses' : Graph.Closes solution.varCycles r (checker.table.var t.name)
      · obtain ⟨cycle, hcycle, hfirst, hlast⟩ := hcloses'
        have hring := (Graph.isCycle_of_mem_cyclesFrom cycle hcycle).edge
        refine Or.inl (h.exists_entry hcycle (head?_filterMap_of_label hfirst ht)
          (getLast?_filterMap_of_none hring hfirst ht hlast hr ?_))
        intro w hw
        rw [← h.edge_to_unique_of_none hr hedge hw]
        exact hs
      · exact Or.inr (.tail (.single ⟨hedge', hcloses'⟩) ⟨hedge, hcloses⟩)

/-- The symbols of an entry are unresolvable variables that wait on each other. -/
theorem entry_sound (h : solution.Solves catalogue stmts checker) {entry : List Symbol}
    (hentry : entry ∈ solution.cycles) :
    entry ≠ [] ∧ entry.Nodup ∧
      (∀ symbol ∈ entry, (∃ declaration, symbol = .variable declaration) ∧
        solution.typeOf symbol = .ok .unresolvable) ∧
      ∀ step ∈ ringSteps entry, solution.WaitsOn step.1 step.2 := by
  obtain ⟨hne, cycle, hcycle, rfl⟩ := h.mem_cycles_iff.mp hentry
  have hsimple := Graph.isCycle_of_mem_cyclesFrom cycle hcycle
  have hawaited : ∀ v ∈ cycle, ∃ w, solution.graph.Edge w v := by
    intro v hv
    obtain ⟨w, hw⟩ := exists_ringStep_to hv
    exact ⟨w, hsimple.edge _ hw⟩
  refine ⟨hne, hsimple.nodup.filterMap ?_, ?_, h.labels.ring_filterMap ?_⟩
  · intro u v symbol hu hv
    rw [(Checker.owner?_eq_some_iff.mp hu).2,
      (Checker.owner?_eq_some_iff.mp hv).2]
  · intro symbol hsymbol
    obtain ⟨v, hv, howner⟩ := List.mem_filterMap.mp hsymbol
    obtain ⟨w, hw⟩ := hawaited v hv
    exact h.unresolvable_of_edge hw howner
  · intro step hstep
    exact ⟨hsimple.edge step hstep, hawaited _ (fst_mem_of_ringStep hstep)⟩

/-- Symbols that wait on each other in a ring share a step with an entry. -/
theorem entry_complete (h : solution.Solves catalogue stmts checker) {first : Symbol}
    {rest : List Symbol}
    (hring : ∀ step ∈ ringSteps (first :: rest), solution.WaitsOn step.1 step.2) :
    ∃ entry ∈ solution.cycles, ∃ step ∈ ringSteps entry, step ∈ ringSteps (first :: rest) := by
  by_contra hnone
  -- Otherwise the edges of all steps are open, and they lead from a variable back to itself.
  have hopen : ∀ step ∈ ringSteps (first :: rest),
      Relation.TransGen (Function.swap (solution.graph.OpenEdge solution.varCycles))
        (checker.table.var step.1.name) (checker.table.var step.2.name) := by
    intro step hstep
    rcases h.step_or_open (hring step hstep) with ⟨entry, hentry, hshared⟩ | hopen
    · exact absurd ⟨entry, hentry, step, hshared, hstep⟩ hnone
    · exact Relation.transGen_swap.mpr hopen
  have hcycle := Relation.transGen_swap.mp
    ((transGen_of_ring (forall_ringSteps.mp hopen)).lift' (fun symbol : Symbol =>
      checker.table.var symbol.name) fun _ _ hpath => hpath)
  obtain ⟨next, _, hedge, _⟩ := Relation.TransGen.tail'_iff.mp hcycle
  exact not_transGen_self_of_acc (Graph.acc_of_mem_nodes (Graph.mem_sources_of_edge hedge)) hcycle

end Solution.Solves

section Inference

variable {table : SymbolTable} {stmts : List Statement} {trace : Trace}

theorem CheckerM.typeOf_table (symbol : Symbol) (table : SymbolTable) :
    Keeps (fun checker => checker.table = table) (CheckerM.typeOf symbol) := by
  have hvar : Keeps (fun checker => checker.table = table) (CheckerM.varOf symbol) := by
    intro checker hchecker
    refine Ends.get_bind ?_
    cases checker.varOf symbol with
    | ok v => exact Ends.pure hchecker
    | error fault => exact Ends.throw hchecker
  have hquery : ∀ {α : Type} (ask : Query α),
      Keeps (fun checker => checker.table = table) (CheckerM.query ask) := by
    intro α ask checker hchecker
    unfold Ends CheckerM.query CheckerM.unifier
    cases Unifier.query ask checker.session with
    | ok value session => exact hchecker
    | error failure session => exact hchecker
  refine Keeps.bind hvar fun v => Keeps.bind (hquery _) fun ty => ?_
  cases ty <;> exact Keeps.pure _

theorem infer_cycles : Ends (infer stmts table) trace
    (fun solution _ => ∃ checker : Checker, checker.table = solution.table ∧
      checker.relations = solution.pending ∧ solution.cycles = checker.pendingCycles)
    fun _ _ => True := by
  refine infer_of_run (Ends.bind Ends.trivial fun _ _ _ => Ends.bind Ends.trivial fun _ c _ => ?_)
  refine Ends.get_bind ?_
  have htypes := Keeps.mapM c.table.symbols (fun symbol _ => CheckerM.typeOf_table symbol c.table)
  refine Ends.bind ((htypes c rfl).mono (fun _ _ h => h) fun _ _ _ => trivial) ?_
  intro types c' hc'
  exact Ends.get_bind (Ends.pure ⟨c', hc', rfl, rfl⟩)

end Inference

/-- A successful inference leads to a solution of a run. -/
theorem solves_of_infer {program stmts : List Statement} {catalogue : Catalogue}
    {table : SymbolTable} {solution : Solution} {trace trace' trace₀ trace₁ : Trace}
    (hconcrete : catalogue.Concrete)
    (htable : resolveSymbols program catalogue trace₀ = .ok table trace₁)
    (hinfer : infer stmts table trace = .ok solution trace') :
    ∃ checker, solution.Solves catalogue stmts checker := by
  obtain ⟨ds, _, hsymbols⟩ := (resolveSymbols_ends program catalogue trace₀).good_of_eq htable
  have hdeclared := SymbolTable.symbols_of_ofSymbols hsymbols
  have hrun : infer stmts table trace = concluded (.ok solution) trace' := hinfer
  have hoff := (infer_scripted stmts table Trace.off).off hrun (by simp)
  obtain ⟨checker, hgenerated, hconsistent, hdescribes⟩ := (infer_ends
    (signatures_ground hconcrete hdeclared) ((infer_known stmts table trace).good_of_eq hinfer)
    Trace.off_accepting).good_of_eq hoff
  obtain ⟨last, hlastTable, hlastRelations, hcycles⟩ := infer_cycles.good_of_eq hinfer
  refine ⟨checker, hgenerated.lowered hdeclared, ?_, ?_, ?_, hconsistent, hdescribes, ?_⟩
  · rw [hgenerated.table_eq]
    exact hgenerated.relations_eq
  · rw [hgenerated.table_eq]
    exact hgenerated.inScope
  · intro symbol hmem
    rw [hgenerated.table_eq, hdeclared, declaredSymbols, List.mem_append, List.mem_map,
      List.mem_map] at hmem
    rcases hmem with ⟨declaration, _, rfl⟩ | ⟨entry, _, rfl⟩
    · exact Or.inl ⟨declaration, rfl⟩
    · exact Or.inr ⟨entry.1, entry.2, rfl⟩
  · rw [hcycles]
    have howner : last.owner? = { checker with relations := solution.pending }.owner? :=
      funext (Checker.owner?_congr (hlastTable.trans hdescribes.table_eq))
    unfold Checker.pendingCycles
    rw [hlastRelations, howner]

/-- Cycle diagnostics are exact. Every reported entry consists of variable symbols without a type,
each once, and each waits on the next, the last one on the first. Conversely every ring of symbols
that wait on each other has a step that stands in a reported entry. -/
theorem reported_cycles_are_exact {program stmts : List Statement} {catalogue : Catalogue}
    {table : SymbolTable} {solution : Solution} {trace trace' trace₀ trace₁ : Trace}
    (hconcrete : catalogue.Concrete)
    (htable : resolveSymbols program catalogue trace₀ = .ok table trace₁)
    (hinfer : infer stmts table trace = .ok solution trace') :
    (∀ entry ∈ solution.cycles, entry ≠ [] ∧ entry.Nodup ∧
      (∀ symbol ∈ entry, (∃ declaration, symbol = .variable declaration) ∧
        solution.typeOf symbol = .ok .unresolvable) ∧
      ∀ step ∈ ringSteps entry, solution.WaitsOn step.1 step.2) ∧
    ∀ cycle ≠ [], (∀ step ∈ ringSteps cycle, solution.WaitsOn step.1 step.2) →
      ∃ entry ∈ solution.cycles, ∃ step ∈ ringSteps entry, step ∈ ringSteps cycle := by
  obtain ⟨checker, hsolves⟩ := solves_of_infer hconcrete htable hinfer
  refine ⟨fun entry hentry => hsolves.entry_sound hentry, ?_⟩
  intro cycle hne hring
  cases cycle with
  | nil => exact absurd rfl hne
  | cons first rest => exact hsolves.entry_complete hring

/-- In `var x = y; var y = x(); var z = z;` the first two variables wait on each other, the second
of them through a call, and the third waits on itself. -/
theorem reported_cycles_are_exact_through_call :
    let x : Declaration := ⟨⟨[120]⟩, some (.ref ⟨[121]⟩)⟩
    let y : Declaration := ⟨⟨[121]⟩, some (.call ⟨[120]⟩ [])⟩
    let z : Declaration := ⟨⟨[122]⟩, some (.ref ⟨[122]⟩)⟩
    let stmts : List Statement := [.declare x, .declare y, .declare z]
    let table := (SymbolTable.ofSymbols
      [.variable x, .variable y, .variable z]).toOption.getD .empty
    Catalogue.empty.Concrete ∧
      resolveSymbols stmts Catalogue.empty Trace.off = .ok table Trace.off ∧
      ∃ solution trace', infer stmts table Trace.off = .ok solution trace' ∧
        solution.cycles = [[.variable x, .variable y], [.variable z]] ∧
        solution.WaitsOn (.variable x) (.variable y) ∧
        solution.WaitsOn (.variable y) (.variable x) ∧
        solution.WaitsOn (.variable z) (.variable z) := by
  intro x y z stmts table
  have hconcrete : Catalogue.empty.Concrete := by decide
  have htable : resolveSymbols stmts Catalogue.empty Trace.off = .ok table Trace.off := by rfl
  obtain ⟨solution, trace', hinfer, hcycles⟩ : ∃ solution trace',
      infer stmts table Trace.off = .ok solution trace' ∧
      solution.cycles = [[.variable x, .variable y], [.variable z]] :=
    Ends.exists_ok (by decide +kernel)
  have hsound := (reported_cycles_are_exact hconcrete htable hinfer).1
  rw [hcycles] at hsound
  have hpair := (hsound [.variable x, .variable y] (by simp)).2.2.2
  have hself := (hsound [.variable z] (by simp)).2.2.2
  refine ⟨hconcrete, htable, solution, trace', hinfer, hcycles, ?_, ?_, ?_⟩
  · exact hpair (.variable x, .variable y) (by simp [ringSteps])
  · exact hpair (.variable y, .variable x) (by simp [ringSteps])
  · exact hself (.variable z, .variable z) (by simp [ringSteps])

end Typeflow
