import Typeflow.Proofs.Checker.Generation
import Typeflow.Proofs.Dictionary
import Typeflow.Solution

/-!
Inference computes the least set of facts. With ground signatures it succeeds exactly when the
facts of the generated relations are consistent; the solution then gives every symbol its type,
and the relations left over are those that wait for a variable without one.
-/

namespace Typeflow

/-- Every signature is free of variables, of the unresolvable mark and of absent types. -/
def Catalogue.Concrete (catalogue : Catalogue) : Prop :=
  ∀ entry ∈ catalogue.entries, entry.2.toTy.Ground

instance (catalogue : Catalogue) : Decidable catalogue.Concrete :=
  inferInstanceAs (Decidable (∀ entry ∈ catalogue.entries, _))

theorem function_mem_declaredSymbols {ds : List Declaration} {catalogue : Catalogue}
    {name : Identifier} {signature : Signature} :
    .function name signature ∈ declaredSymbols ds catalogue ↔
      (name, signature) ∈ catalogue.entries := by
  simp [declaredSymbols, catalogue.functions_perm.mem_iff]

theorem signatures_ground {ds : List Declaration} {catalogue : Catalogue} {table : SymbolTable}
    (hconcrete : catalogue.Concrete) (hsymbols : table.symbols = declaredSymbols ds catalogue)
    (name : Identifier) (signature : Signature)
    (hmem : .function name signature ∈ table.symbols) : signature.toTy.Ground := by
  rw [hsymbols, function_mem_declaredSymbols] at hmem
  exact hconcrete _ hmem

/-- The types of a table of symbols under what is known about their variables. -/
def SymbolTable.typesUnder (table : SymbolTable) (known : TypeVar → Option Ty) :
    List (Symbol × Ty) :=
  table.symbols.map fun symbol => (symbol, (known (table.var symbol.name)).getD .unresolvable)

namespace CheckerM

variable {checker : Checker} {table : SymbolTable} {relations : List Relation} {arena : Arena}
  {bad : Failure → Checker → Prop}

theorem typeOf_ends (hc : checker.At table relations arena)
    (hclosed : arena.Closed) (hsize : table.size ≤ arena.size) {symbol : Symbol}
    (hmem : symbol ∈ table.symbols) :
    Ends (typeOf symbol) checker
      (fun pair c' => pair =
          (symbol, (arena.entry (table.var symbol.name)).getD .unresolvable) ∧
        c'.At table relations arena) bad := by
  have hname := SymbolTable.name_mem hmem
  have howns : arena.Owns (table.var symbol.name) := by
    have hlt := SymbolTable.var_lt hname
    exact ⟨Int.natCast_nonneg _, by omega⟩
  have hvar : varOf symbol checker = .ok (table.var symbol.name) checker := by
    obtain ⟨_, rfl, _⟩ := hc
    exact varOf_eq (Checker.varOf_eq hmem)
  refine Ends.bind_of_ok hvar ?_
  refine Ends.bind (query_at hc (Arena.apply_var hclosed howns)) ?_
  rintro _ c' ⟨rfl, hc'⟩
  cases hentry : arena.entry (table.var symbol.name) with
  | none => exact Ends.pure ⟨rfl, hc'⟩
  | some ty =>
    have hne := (hclosed _ _ hentry).ne_var
    cases ty with
    | var v => exact absurd rfl (hne v)
    | _ => exact Ends.pure ⟨rfl, hc'⟩

theorem solution_ends (hc : checker.At table relations arena)
    (hclosed : arena.Closed) (hsize : table.size ≤ arena.size) :
    Ends solution checker
      (fun found _ => found.table = table ∧ found.types = table.typesUnder arena.entry ∧
        found.pending = relations) bad := by
  refine Ends.get_bind ?_
  rw [hc.table_eq]
  refine Ends.bind (Ends.mapM table.symbols
    (fun symbol hmem c hc => typeOf_ends hc hclosed hsize hmem) checker hc) ?_
  rintro _ c' ⟨rfl, hc'⟩
  refine Ends.get_bind (Ends.pure ⟨rfl, rfl, hc'.relations_eq⟩)

end CheckerM

/-- The solution gives the symbols of a run the types that the facts give their variables, and its
pending relations are those that wait for a variable without a fact. -/
structure Solution.Describes (solution : Solution) (checker : Checker) : Prop where
  table_eq : solution.table = checker.table
  types_eq : ∃ known : TypeVar → Option Ty, (∀ v ty, known v = some ty ↔ Fact checker v ty) ∧
    solution.types = checker.table.typesUnder known
  pending_eq : solution.pending = blockedRelations checker

/-- The run has the relations of these statements, all of which are in scope. -/
structure Generated (stmts : List Statement) (table : SymbolTable) (trace : Trace)
    (checker : Checker) : Prop where
  eq_ok : CheckerM.generate stmts (Checker.ofTable table trace) = .ok () checker
  table_eq : checker.table = table
  relations_eq : checker.relations = table.relationsOf table.size stmts
  inScope : ∀ statement ∈ stmts, statement.InScope table

variable {table : SymbolTable} {stmts : List Statement} {trace : Trace}

theorem not_failsAt_of_inScope (hscope : ∀ statement ∈ stmts, statement.InScope table)
    (failure : Failure) :
    ¬ CheckerM.FailsAt (stmts.flatMap fun statement => statement.offences table) failure := by
  rintro ⟨error, rest, hoffences, _⟩
  have hnil : (stmts.flatMap fun statement => statement.offences table) = [] :=
    List.flatMap_eq_nil_iff.mpr fun statement hmem =>
      Statement.offences_eq_nil_iff.mpr (hscope statement hmem)
  rw [hnil] at hoffences
  cases hoffences

theorem infer_of_run {good : Solution → Prop} {bad : Failure → Prop}
    (h : Ends (do
      CheckerM.generate stmts
      CheckerM.solve
      CheckerM.solution) (Checker.ofTable table trace) (fun solution _ => good solution)
      fun failure _ => bad failure) :
    Ends (infer stmts table) trace (fun solution _ => good solution)
      fun failure _ => bad failure := by
  unfold Ends at h ⊢
  unfold infer
  dsimp only
  split at h
  · rename_i hrun
    rw [hrun]
    exact h
  · rename_i hrun
    rw [hrun]
    exact h

/-- Inference succeeds on declarations and assignments only. -/
theorem infer_known (stmts : List Statement) (table : SymbolTable) (trace : Trace) :
    Ends (infer stmts table) trace
      (fun _ _ => ∀ statement ∈ stmts, statement.isKnown = true) fun _ _ => True :=
  infer_of_run (Ends.bind (CheckerM.generate_known stmts _) fun _ _ hknown =>
    Ends.trivial.mono (fun _ _ _ => hknown) fun _ _ h => h)

/-- Inference on declarations and assignments succeeds with a description of the facts of the
generated relations, or fails: at the first offence of the statements, or because the facts are
not consistent. -/
theorem infer_ends
    (hsignatures : ∀ name signature, .function name signature ∈ table.symbols →
      signature.toTy.Ground)
    (hknown : ∀ statement ∈ stmts, statement.isKnown = true) (htrace : trace.Accepting) :
    Ends (infer stmts table) trace
      (fun solution _ => ∃ checker, Generated stmts table trace checker ∧ Consistent checker ∧
        solution.Describes checker)
      fun failure _ =>
        CheckerM.FailsAt (stmts.flatMap fun statement => statement.offences table) failure ∨
        ∃ checker, Generated stmts table trace checker ∧ SolverError failure ∧
          ¬ Consistent checker := by
  have hgenerate := CheckerM.generate_ends stmts hknown (CheckerM.ofTable_at table htrace)
  rw [Arena.size_grow_empty, Arena.grow_grow, List.nil_append] at hgenerate
  refine infer_of_run ?_
  refine Ends.bind (hgenerate.record.mono (fun _ _ h => h) fun _ _ h => Or.inl h.2) ?_
  rintro _ start ⟨heq, hscope, hstart⟩
  have hgenerated : Generated stmts table trace start :=
    ⟨heq, hstart.table_eq, hstart.relations_eq, hscope⟩
  have hready := CheckerM.ready_of_generated hsignatures hscope hstart
  refine Ends.bind ((CheckerM.solve_ends hready).mono (fun _ _ h => h)
    fun _ _ h => Or.inr ⟨start, hgenerated, h⟩) ?_
  rintro _ c ⟨rest, arena, hprogress, hc, hstop⟩
  rw [hstart.table_eq] at hc
  have hsize : table.size ≤ arena.size := by
    have hle := hready.size_le
    rw [hprogress.size_eq, ← hstart.table_eq]
    exact hle
  refine (CheckerM.solution_ends hc hprogress.ground.closed hsize).mono ?_ fun _ _ h => h
  rintro found _ ⟨htable, htypes, hpending⟩
  -- When the solver stops the arena holds the facts and nothing else.
  refine ⟨start, hgenerated, hprogress.consistent hstop, ?_, ⟨arena.entry, ?_, ?_⟩, ?_⟩
  · rw [htable, hstart.table_eq]
  · exact fun v ty => ⟨hprogress.sound v ty, hprogress.entry_of_fact hstop⟩
  · rw [htypes, hstart.table_eq]
  · rw [hpending, hprogress.relations_eq hstop]

theorem Solution.typeOf_of_types {solution : Solution} {known : TypeVar → Option Ty}
    (htypes : solution.types = table.typesUnder known) {symbol : Symbol}
    (hmem : symbol ∈ table.symbols) :
    solution.typeOf symbol = .ok ((known (table.var symbol.name)).getD .unresolvable) := by
  have hfind : table.symbols.find? (fun other => decide (other = symbol)) = some symbol := by
    cases hfind : table.symbols.find? fun other => decide (other = symbol) with
    | none => exact absurd (List.find?_eq_none.mp hfind symbol hmem) (by simp)
    | some other =>
      have heq := List.find?_some hfind
      simp only [decide_eq_true_eq] at heq
      rw [heq]
  unfold Solution.typeOf
  rw [htypes, SymbolTable.typesUnder, List.find?_map]
  simp only [Function.comp_def, hfind, Option.map_some]

/-- Inference computes the least set of facts. On a table resolved from any program, for
statements whose names are in the table and whose expressions are references and calls, it
succeeds exactly if the facts are consistent; every symbol then has the type that the facts give
its variable, or is unresolvable if they give none, and the pending relations are those that wait
for a variable without a fact, in the order of generation. -/
theorem infer_computes_facts {program stmts : List Statement} {catalogue : Catalogue}
    {table : SymbolTable} {trace trace₀ trace₁ : Trace} (hconcrete : catalogue.Concrete)
    (htable : resolveSymbols program catalogue trace₀ = .ok table trace₁)
    (hknown : ∀ statement ∈ stmts, statement.isKnown = true)
    (hsupported : ∀ statement ∈ stmts, statement.isSupported = true)
    (hnames : ∀ statement ∈ stmts, ∀ name ∈ statement.names, name ∈ table.names)
    (htrace : trace.Accepting) :
    ∃ checker, CheckerM.generate stmts (Checker.ofTable table trace) = .ok () checker ∧
      ((∃ solution trace', infer stmts table trace = .ok solution trace') ↔
        Consistent checker) ∧
      ∀ solution trace', infer stmts table trace = .ok solution trace' →
        (∀ symbol ∈ table.symbols, ∃ v ty, checker.varOf symbol = .ok v ∧
          solution.typeOf symbol = .ok ty ∧
          (Fact checker v ty ∨ ty = .unresolvable ∧ ∀ u, ¬ Fact checker v u)) ∧
        solution.pending = blockedRelations checker := by
  obtain ⟨ds, _, hsymbols⟩ := (resolveSymbols_ends program catalogue trace₀).good_of_eq htable
  have hdeclared := SymbolTable.symbols_of_ofSymbols hsymbols
  have hsignatures := signatures_ground hconcrete hdeclared
  have hscope : ∀ statement ∈ stmts, statement.InScope table := fun statement hmem =>
    Statement.inScope_iff.mpr ⟨hsupported statement hmem, hnames statement hmem⟩
  have hclean : ∀ failure, ¬ CheckerM.FailsAt
      (stmts.flatMap fun statement => statement.offences table) failure :=
    not_failsAt_of_inScope hscope
  have hgenerate := CheckerM.generate_ends stmts hknown (CheckerM.ofTable_at table htrace)
  have hinfer := infer_ends hsignatures hknown htrace
  obtain ⟨_, checker, hchecker, _⟩ :=
    (hgenerate.mono (fun _ _ h => h) fun failure _ h => hclean failure h).exists_ok
  have hsame : ∀ checker', Generated stmts table trace checker' → checker' = checker := by
    intro checker' hgenerated
    have heq := hgenerated.eq_ok
    rw [hchecker] at heq
    injection heq with _ heq
    exact heq.symm
  refine ⟨checker, hchecker, ⟨?_, ?_⟩, ?_⟩
  · rintro ⟨solution, trace', hok⟩
    obtain ⟨checker', hgenerated, hconsistent, _⟩ := hinfer.good_of_eq hok
    rw [← hsame checker' hgenerated]
    exact hconsistent
  · intro hconsistent
    cases hresult : infer stmts table trace with
    | ok solution trace' => exact ⟨solution, trace', rfl⟩
    | error failure trace' =>
      rcases hinfer.bad_of_eq hresult with hoffence | ⟨checker', hgenerated, _, hnot⟩
      · exact absurd hoffence (hclean failure)
      · rw [hsame checker' hgenerated] at hnot
        exact absurd hconsistent hnot
  · intro solution trace' hok
    obtain ⟨checker', hgenerated, _, hdescribes⟩ := hinfer.good_of_eq hok
    obtain rfl := hsame checker' hgenerated
    obtain ⟨known, hfacts, htypes⟩ := hdescribes.types_eq
    rw [hgenerated.table_eq] at htypes
    refine ⟨fun symbol hmem => ?_, hdescribes.pending_eq⟩
    have hvar : checker'.varOf symbol = .ok (table.var symbol.name) := by
      obtain rfl := hgenerated.table_eq
      exact Checker.varOf_eq hmem
    refine ⟨_, _, hvar, Solution.typeOf_of_types htypes hmem, ?_⟩
    cases hentry : known (table.var symbol.name) with
    | some ty => exact Or.inl ((hfacts _ _).mp hentry)
    | none =>
      refine Or.inr ⟨rfl, fun u hfact => ?_⟩
      rw [(hfacts _ _).mpr hfact] at hentry
      cases hentry

/-- In `var x = f(y); var y;` the call gives `x` the result of `f` and `y` its parameter, and no
relation is left. -/
theorem infer_computes_facts_of_call :
    let f : Identifier := ⟨[102]⟩
    let i : Ty := .name ⟨[105]⟩
    let b : Ty := .name ⟨[98]⟩
    let x : Declaration := ⟨⟨[120]⟩, some (.call f [.ref ⟨[121]⟩])⟩
    let y : Declaration := ⟨⟨[121]⟩, none⟩
    let catalogue := Catalogue.empty.define f ⟨[i], b⟩
    let stmts : List Statement := [.declare x, .declare y]
    let table := (SymbolTable.ofSymbols
      [.variable x, .variable y, .function f ⟨[i], b⟩]).toOption.getD .empty
    catalogue.Concrete ∧ resolveSymbols stmts catalogue Trace.off = .ok table Trace.off ∧
      (∀ statement ∈ stmts, statement.isKnown = true ∧ statement.isSupported = true ∧
        ∀ name ∈ statement.names, name ∈ table.names) ∧
      ∃ checker solution after,
        CheckerM.generate stmts (Checker.ofTable table Trace.off) = .ok () checker ∧
        infer stmts table Trace.off = .ok solution after ∧ Consistent checker ∧
        (solution.typeOf (.variable x) = .ok b ∧ solution.typeOf (.variable y) = .ok i ∧
          solution.typeOf (.function f ⟨[i], b⟩) = .ok (.fn [i] b)) ∧
        (∃ v, checker.varOf (.variable x) = .ok v ∧ Fact checker v b) ∧
        (∃ v, checker.varOf (.variable y) = .ok v ∧ Fact checker v i) ∧
        solution.pending = [] ∧ blockedRelations checker = [] := by
  intro f i b x y catalogue stmts table
  have hconcrete : catalogue.Concrete := by decide
  have htable : resolveSymbols stmts catalogue Trace.off = .ok table Trace.off := by rfl
  have hstmts : ∀ statement ∈ stmts, statement.isKnown = true ∧ statement.isSupported = true ∧
      ∀ name ∈ statement.names, name ∈ table.names := by decide
  obtain ⟨solution, after, hinfer, htypes, hpending⟩ : ∃ solution after,
      infer stmts table Trace.off = .ok solution after ∧
      (solution.typeOf (.variable x) = .ok b ∧ solution.typeOf (.variable y) = .ok i ∧
        solution.typeOf (.function f ⟨[i], b⟩) = .ok (.fn [i] b)) ∧
      solution.pending = [] := Ends.exists_ok (by decide +kernel)
  obtain ⟨checker, hgenerate, hiff, hsolution⟩ := infer_computes_facts hconcrete htable
    (fun s hs => (hstmts s hs).1) (fun s hs => (hstmts s hs).2.1) (fun s hs => (hstmts s hs).2.2)
    Trace.off_accepting
  obtain ⟨hfacts, hblocked⟩ := hsolution solution after hinfer
  have hfact : ∀ symbol ∈ table.symbols, ∀ name, solution.typeOf symbol = .ok (.name name) →
      ∃ v, checker.varOf symbol = .ok v ∧ Fact checker v (.name name) := by
    intro symbol hmem name hname
    obtain ⟨v, ty, hvar, htype, hknown⟩ := hfacts symbol hmem
    rw [hname] at htype
    cases htype
    rcases hknown with hknown | ⟨hunresolvable, _⟩
    · exact ⟨v, hvar, hknown⟩
    · cases hunresolvable
  exact ⟨hconcrete, htable, hstmts, checker, solution, after, hgenerate, hinfer,
    hiff.mp ⟨_, _, hinfer⟩, htypes, hfact _ (by decide) _ htypes.1,
    hfact _ (by decide) _ htypes.2.1, hpending, hblocked ▸ hpending⟩

end Typeflow
