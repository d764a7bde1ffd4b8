import Typeflow.Checker.Generate
import Typeflow.Proofs.Checker.Solving
import Typeflow.Proofs.Program.Relations

/-!
Generating the relations of statements. A run fails at the first offence, in the order of the
statements, and otherwise it adds the relations of the program and one unbound variable for each
call.
-/

namespace Typeflow

namespace CheckerM

variable {checker : Checker} {table : SymbolTable} {relations : List Relation} {arena : Arena}
  {statement : Statement}

/-- The first of the offences is what the run failed with. -/
def FailsAt (offences : List InferenceError) (failure : Failure) : Prop :=
  ∃ error rest, offences = error :: rest ∧ failure = .error error

theorem bind_failsAt {α β : Type} {x : CheckerM α} {f : α → CheckerM β}
    {middle : α → Checker → Prop} {good : β → Checker → Prop}
    {first rest : List InferenceError}
    (hx : Ends x checker middle fun failure _ => FailsAt first failure)
    (hclean : ∀ value c', middle value c' → first = [])
    (hf : ∀ value c', middle value c' → Ends (f value) c' good
      fun failure _ => FailsAt rest failure) :
    Ends (x >>= f) checker good fun failure _ => FailsAt (first ++ rest) failure := by
  have hfirst : Ends x checker middle fun failure _ => FailsAt (first ++ rest) failure := by
    refine hx.mono (fun _ _ h => h) ?_
    rintro _ _ ⟨error, others, rfl, rfl⟩
    exact ⟨error, others ++ rest, rfl, rfl⟩
  refine Ends.bind hfirst ?_
  intro value c' hmiddle
  rw [hclean value c' hmiddle]
  exact hf value c' hmiddle

theorem find_ends (hc : checker.At table relations arena)
    (name : Identifier) :
    Ends (find name statement) checker
      (fun symbol c' => symbol = table.symbolOf name ∧ name ∈ table.names ∧
        c'.At table relations arena)
      fun failure _ => FailsAt (table.missing statement name) failure := by
  refine Ends.get_bind ?_
  rw [hc.table_eq]
  unfold SymbolTable.find
  by_cases hname : name ∈ table.names
  · rw [SymbolTable.lookup?_symbolOf hname]
    exact Ends.pure ⟨rfl, hname, hc⟩
  · rw [SymbolTable.lookup?_eq_none_iff.mpr hname]
    exact Ends.throw ⟨_, [], by simp [SymbolTable.missing, hname], rfl⟩

theorem varOf_symbolOf (hc : checker.At table relations arena)
    {name : Identifier} (hname : name ∈ table.names) :
    varOf (table.symbolOf name) checker = .ok (table.var name) checker := by
  obtain ⟨hmem, hsymbol⟩ := SymbolTable.symbolOf_mem hname
  obtain ⟨_, rfl, _⟩ := hc
  have hvar := Checker.varOf_eq hmem
  rw [hsymbol] at hvar
  exact varOf_eq hvar

theorem fresh_ends {bad : Failure → Checker → Prop} (hc : checker.At table relations arena) :
    Ends (unifier Unifier.fresh) checker
      (fun v c' => v = ⟨(arena.size : Int)⟩ ∧ c'.At table relations (arena.grow 1)) bad := by
  obtain ⟨⟨rfl, haccepting⟩, htable, hrelations⟩ := hc
  have hfresh : unifier Unifier.fresh checker = .ok ⟨(checker.session.arena.size : Int)⟩
      { checker with
        session := { checker.session with arena := checker.session.arena.grow 1 } } := by
    unfold unifier Unifier.fresh
    rw [Arena.fresh_eq_grow]
  exact Ends.of_eq_ok hfresh ⟨rfl, ⟨rfl, haccepting⟩, htable, hrelations⟩

theorem addRelation_ends {bad : Failure → Checker → Prop}
    (hc : checker.At table relations arena) (relation : Relation) :
    Ends (addRelation relation) checker
      (fun _ c' => c'.At table (relations ++ [relation]) arena) bad := by
  refine Ends.bind (write_at hc _ _) ?_
  rintro _ c' ⟨hsession, htable, hrelations⟩
  exact ⟨hsession, htable, by simp [hrelations]⟩

/-- What a run has after it has asked for the type of an expression. -/
def Synthesised (table : SymbolTable) (relations : List Relation) (arena : Arena) (expr : Expr)
    (value : TypeVar × Symbol) (checker : Checker) : Prop :=
  value = (table.valueVar arena.size expr, table.symbolOf expr.head) ∧ expr.InScope table ∧
    checker.At table (relations ++ table.callRelations arena.size expr)
      (arena.grow expr.calls.length)

private theorem synthArgs_ends {args : List Expr}
    (harg : ∀ arg ∈ args, ∀ checker relations arena, checker.At table relations arena →
      Ends (synth statement arg) checker (Synthesised table relations arena arg)
        fun failure _ => FailsAt (table.offences statement arg) failure)
    (hc : checker.At table relations arena) :
    Ends (synthArgs statement args) checker
      (fun vars c' => vars = table.valueVars arena.size args ∧
        (∀ arg ∈ args, arg.InScope table) ∧
        c'.At table (relations ++ table.callRelationsList arena.size args)
          (arena.grow (Expr.callsList args).length))
      fun failure _ => FailsAt (table.offencesList statement args) failure := by
  induction args generalizing checker relations arena with
  | nil =>
    refine Ends.pure ⟨rfl, by simp, ?_⟩
    simpa [SymbolTable.callRelationsList, Expr.callsList, Arena.grow_zero] using hc
  | cons first rest ih =>
    obtain ⟨hfirst, hrest⟩ := List.forall_mem_cons.mp harg
    refine bind_failsAt (hfirst checker relations arena hc)
      (fun _ _ h => SymbolTable.offences_eq_nil_iff.mpr h.2.1) ?_
    rintro _ c₁ ⟨rfl, hscope, hc₁⟩
    refine Ends.bind (ih hrest hc₁) ?_
    rintro _ c₂ ⟨rfl, hscopes, hc₂⟩
    rw [Arena.size_grow, List.append_assoc, Arena.grow_grow] at hc₂
    refine Ends.pure ⟨?_, List.forall_mem_cons.mpr ⟨hscope, hscopes⟩, ?_⟩
    · rw [Arena.size_grow, SymbolTable.valueVars]
    · rw [SymbolTable.callRelationsList, Expr.callsList, List.length_append]
      exact hc₂

/-- Asking for the type of an expression adds the relations of its calls. -/
theorem synth_ends (expr : Expr)
    (hc : checker.At table relations arena) :
    Ends (synth statement expr) checker (Synthesised table relations arena expr)
      fun failure _ => FailsAt (table.offences statement expr) failure := by
  induction expr using Expr.inductionOn generalizing checker relations arena with
  | ref name =>
    refine Ends.bind (find_ends hc name) ?_
    rintro _ c₁ ⟨rfl, hname, hc₁⟩
    refine Ends.bind_of_ok (varOf_symbolOf hc₁ hname) (Ends.pure ⟨rfl, ?_, ?_⟩)
    · exact Expr.inScope_ref.mpr hname
    · simpa [SymbolTable.callRelations, Expr.calls, Arena.grow_zero] using hc₁
  | call callee args ih =>
    refine bind_failsAt (find_ends hc callee)
      (fun _ _ h => SymbolTable.missing_eq_nil_iff.mpr h.2.1) ?_
    rintro _ c₁ ⟨rfl, hname, hc₁⟩
    refine Ends.bind (synthArgs_ends (fun arg harg _ _ _ hc => ih arg harg hc) hc₁) ?_
    rintro _ c₂ ⟨rfl, hscopes, hc₂⟩
    refine Ends.bind (fresh_ends hc₂) ?_
    rintro _ c₃ ⟨rfl, hc₃⟩
    refine Ends.bind_of_ok (varOf_symbolOf hc₃ hname) ?_
    refine Ends.bind (addRelation_ends hc₃ _) ?_
    intro _ c₄ hc₄
    rw [Arena.size_grow, Arena.grow_grow, List.append_assoc] at hc₄
    refine Ends.pure ⟨?_, Expr.inScope_call.mpr ⟨hname, hscopes⟩, ?_⟩
    · rw [Arena.size_grow]
      rfl
    · rw [SymbolTable.callRelations, Expr.calls, List.length_append]
      exact hc₄
  | unsupported form => exact Ends.throw ⟨_, [], rfl, rfl⟩

theorem relateAssignment_ends (target : Identifier) (value : Expr)
    (hassign : statement.assignment? = some (target, value))
    (hc : checker.At table relations arena) :
    Ends (relateAssignment statement target value) checker
      (fun _ c' => statement.InScope table ∧
        c'.At table (relations ++ table.statementRelations arena.size statement)
          (arena.grow statement.calls.length))
      fun failure _ => FailsAt (statement.offences table) failure := by
  have hoffences : statement.offences table =
      table.missing statement target ++ table.offences statement value := by
    unfold Statement.offences
    rw [hassign]
  have hrelations : table.statementRelations arena.size statement =
      table.callRelations arena.size value ++
        [.equates (table.var target) (table.valueVar arena.size value) (table.symbolOf target)
          (table.symbolOf value.head) statement] := by
    unfold SymbolTable.statementRelations
    rw [hassign]
  have hcalls : statement.calls = value.calls := by
    unfold Statement.calls
    rw [hassign]
  rw [hoffences, hrelations, hcalls]
  refine bind_failsAt (find_ends hc target)
    (fun _ _ h => SymbolTable.missing_eq_nil_iff.mpr h.2.1) ?_
  rintro _ c₁ ⟨rfl, htarget, hc₁⟩
  refine Ends.bind (synth_ends value hc₁) ?_
  rintro _ c₂ ⟨rfl, hscope, hc₂⟩
  refine Ends.bind_of_ok (varOf_symbolOf hc₂ htarget) ?_
  refine (addRelation_ends hc₂ _).mono ?_ fun _ _ h => h
  intro _ c₃ hc₃
  rw [List.append_assoc] at hc₃
  refine ⟨?_, hc₃⟩
  intro target' value' hassign'
  rw [hassign] at hassign'
  cases hassign'
  exact ⟨htarget, hscope⟩

theorem relateStatement_ends (hknown : statement.isKnown = true)
    (hc : checker.At table relations arena) :
    Ends (relateStatement statement) checker
      (fun _ c' => statement.InScope table ∧
        c'.At table (relations ++ table.statementRelations arena.size statement)
          (arena.grow statement.calls.length))
      fun failure _ => FailsAt (statement.offences table) failure := by
  match statement with
  | .declare ⟨name, none⟩ =>
    refine Ends.pure ⟨?_, ?_⟩
    · intro target value hassign
      cases hassign
    · simpa [SymbolTable.statementRelations, Statement.assignment?, Statement.calls,
        Arena.grow_zero] using hc
  | .declare ⟨name, some init⟩ => exact relateAssignment_ends name init rfl hc
  | .assign name value => exact relateAssignment_ends name value rfl hc
  | .unknown | .missing => cases hknown

private theorem relateAll_ends (stmts : List Statement)
    (hknown : ∀ statement ∈ stmts, statement.isKnown = true)
    (hc : checker.At table relations arena) :
    Ends (stmts.forM relateStatement) checker
      (fun _ c' => (∀ statement ∈ stmts, statement.InScope table) ∧
        c'.At table (relations ++ table.relationsOf arena.size stmts)
          (arena.grow (stmts.flatMap Statement.calls).length))
      fun failure _ =>
        FailsAt (stmts.flatMap fun statement => statement.offences table) failure := by
  induction stmts generalizing checker relations arena with
  | nil =>
    refine Ends.pure ⟨by simp, ?_⟩
    simpa [SymbolTable.relationsOf, Arena.grow_zero] using hc
  | cons first rest ih =>
    obtain ⟨hfirst, hrest⟩ := List.forall_mem_cons.mp hknown
    rw [List.flatMap_cons]
    refine bind_failsAt (relateStatement_ends hfirst hc)
      (fun _ _ h => Statement.offences_eq_nil_iff.mpr h.1) ?_
    rintro _ c₁ ⟨hscope, hc₁⟩
    refine (ih hrest hc₁).mono ?_ fun _ _ h => h
    rintro _ c₂ ⟨hscopes, hc₂⟩
    rw [Arena.size_grow, List.append_assoc, Arena.grow_grow] at hc₂
    refine ⟨List.forall_mem_cons.mpr ⟨hscope, hscopes⟩, ?_⟩
    rw [SymbolTable.relationsOf, List.length_append]
    exact hc₂

/-- A run that generates the relations of declarations and assignments fails at the first offence.
If there is none it adds the relations of the program. -/
theorem generate_ends (stmts : List Statement)
    (hknown : ∀ statement ∈ stmts, statement.isKnown = true)
    (hc : checker.At table relations arena) :
    Ends (generate stmts) checker
      (fun _ c' => (∀ statement ∈ stmts, statement.InScope table) ∧
        c'.At table (relations ++ table.relationsOf arena.size stmts)
          (arena.grow (stmts.flatMap Statement.calls).length))
      fun failure _ =>
        FailsAt (stmts.flatMap fun statement => statement.offences table) failure :=
  Ends.bind (write_at hc _ _) fun _ _ hc₁ => relateAll_ends stmts hknown hc₁

/-- How generating relations can fail: with a fault, or at an offence. -/
def Offends (stmts : List Statement) (table : SymbolTable) (failure : Failure) : Prop :=
  (∃ fault, failure = .fault fault) ∨
    ∃ statement ∈ stmts, ∃ error ∈ statement.offences table, failure = .error error

theorem FailsAt.offends {stmts : List Statement} {failure : Failure}
    (h : FailsAt (stmts.flatMap fun statement => statement.offences table) failure) :
    Offends stmts table failure := by
  obtain ⟨error, rest, hoffences, rfl⟩ := h
  have hmem : error ∈ stmts.flatMap fun statement => statement.offences table := by
    rw [hoffences]
    exact List.mem_cons_self
  obtain ⟨statement, hstatement, herror⟩ := List.mem_flatMap.mp hmem
  exact Or.inr ⟨statement, hstatement, error, herror, rfl⟩

private theorem relateAll_unknown {stmts : List Statement}
    (hunknown : ∃ statement ∈ stmts, statement.isKnown = false)
    (hc : checker.At table relations arena) :
    Ends (stmts.forM relateStatement) checker (fun _ _ => False)
      fun failure _ => Offends stmts table failure := by
  induction stmts generalizing checker relations arena with
  | nil => simp at hunknown
  | cons first rest ih =>
    cases hfirst : first.isKnown with
    | true =>
      obtain ⟨statement, hstatement, hnot⟩ := hunknown
      have hrest : statement ∈ rest := by
        refine (List.mem_cons.mp hstatement).resolve_left fun heq => ?_
        rw [heq, hfirst] at hnot
        cases hnot
      refine Ends.bind ((relateStatement_ends hfirst hc).mono (fun _ _ h => h) ?_) ?_
      · intro failure _ h
        obtain ⟨error, others, hoffences, rfl⟩ := h
        exact Or.inr ⟨first, List.mem_cons_self, error, by simp [hoffences], rfl⟩
      · intro _ c₁ h
        refine (ih ⟨statement, hrest, hnot⟩ h.2).mono (fun _ _ h => h) fun _ _ h => h.imp id ?_
        exact fun ⟨other, hother, herror⟩ => ⟨other, List.mem_cons_of_mem _ hother, herror⟩
    | false =>
      have hstop : relateStatement first checker = .error (.fault .unreachable) checker := by
        match first with
        | .unknown | .missing => rfl
        | .declare _ | .assign _ _ => cases hfirst
      have hfirst : Ends (relateStatement first) checker (fun _ _ => False)
          fun failure _ => Offends (first :: rest) table failure :=
        Ends.of_eq_error hstop (Or.inl ⟨_, rfl⟩)
      exact Ends.bind hfirst fun _ _ h => h.elim

/-- Only declarations and assignments have relations. -/
theorem generate_known (stmts : List Statement) (checker : Checker) :
    Ends (generate stmts) checker
      (fun _ _ => ∀ statement ∈ stmts, statement.isKnown = true) fun _ _ => True := by
  have hstep : ∀ (statement : Statement) checker, Ends (relateStatement statement) checker
      (fun _ _ => True ∧ statement.isKnown = true) fun _ _ => True := by
    intro statement checker
    cases statement with
    | unknown => exact Ends.throw trivial
    | missing => exact Ends.throw trivial
    | _ => exact Ends.trivial.mono (fun _ _ _ => ⟨trivial, rfl⟩) fun _ _ h => h
  refine Ends.bind Ends.trivial fun _ c _ => ?_
  exact (Ends.forM_check stmts (fun statement _ c _ => hstep statement c) c trivial).mono
    (fun _ _ h => h.2) fun _ _ _ => trivial

theorem generate_ends_of_any (stmts : List Statement)
    (hc : checker.At table relations arena) :
    Ends (generate stmts) checker
      (fun _ c' => (∀ statement ∈ stmts, statement.InScope table) ∧
        c'.At table (relations ++ table.relationsOf arena.size stmts)
          (arena.grow (stmts.flatMap Statement.calls).length))
      fun failure _ => Offends stmts table failure := by
  by_cases hknown : ∀ statement ∈ stmts, statement.isKnown = true
  · exact (generate_ends stmts hknown hc).mono (fun _ _ h => h) fun _ _ h => h.offends
  · simp only [Classical.not_forall, Bool.not_eq_true] at hknown
    obtain ⟨statement, hstatement, hnot⟩ := hknown
    refine Ends.bind (write_at hc _ _) fun _ _ hc₁ => ?_
    exact (relateAll_unknown ⟨statement, hstatement, hnot⟩ hc₁).mono
      (fun _ _ h => h.elim) fun _ _ h => h

end CheckerM

namespace SymbolTable

variable {table : SymbolTable} {next : Nat} {stmts : List Statement}

theorem denotes_bounds {relations : List Relation} {v : TypeVar} {expr : Expr} {count : Nat}
    (hnext : table.size ≤ next)
    (hresults : relations.flatMap Relation.results = newVars next count)
    (hscope : expr.InScope table) (h : table.Denotes relations v expr) :
    0 ≤ v.index ∧ v.index < next + count := by
  cases expr with
  | ref name =>
    have hlt := var_lt (Expr.inScope_ref.mp hscope)
    have hv : v = table.var name := h
    have hnonneg : 0 ≤ (table.var name).index := Int.natCast_nonneg _
    subst hv
    omega
  | call callee args =>
    obtain ⟨_, vars, hmem, _⟩ := h
    have hv : v ∈ relations.flatMap Relation.results :=
      List.mem_flatMap.mpr ⟨_, hmem, List.mem_singleton_self v⟩
    rw [hresults, mem_newVars] at hv
    omega
  | unsupported form => exact absurd hscope Expr.not_inScope_unsupported

theorem vars_relationsOf (hnext : table.size ≤ next)
    (hscope : ∀ statement ∈ stmts, statement.InScope table) :
    ∀ relation ∈ table.relationsOf next stmts, ∀ v ∈ relation.vars,
      0 ≤ v.index ∧ v.index < next + (stmts.flatMap Statement.calls).length := by
  intro relation hrelation v hv
  have hresults : (table.relationsOf next stmts).flatMap Relation.results = _ :=
    results_relationsOf stmts
  have hstands := stands_relationsOf hnext hscope
    (List.Subset.refl (table.relationsOf next stmts))
  obtain ⟨site, hsite, hstand⟩ := exists_right_of_forall₂ hstands hrelation
  obtain ⟨statement, hstatement, hsite⟩ := List.mem_flatMap.mp hsite
  have hsiteScope := (hscope statement hstatement).sites site hsite
  have hname : ∀ name ∈ table.names, v = table.var name →
      0 ≤ v.index ∧ v.index < next + (stmts.flatMap Statement.calls).length := by
    rintro name hname rfl
    exact denotes_bounds hnext hresults (Expr.inScope_ref.mpr hname) rfl
  match relation, site with
  | .applies callee args result, .call name exprs =>
    obtain ⟨hcallee, _, hargs⟩ := hstand
    obtain ⟨hcalleeName, hexprs⟩ := Expr.inScope_call.mp hsiteScope
    simp only [Relation.vars, List.mem_cons] at hv
    rcases hv with rfl | rfl | hv
    · exact hname name hcalleeName hcallee
    · have hresult : v ∈ (table.relationsOf next stmts).flatMap Relation.results :=
        List.mem_flatMap.mpr ⟨_, hrelation, List.mem_singleton_self v⟩
      rw [hresults, mem_newVars] at hresult
      omega
    · obtain ⟨expr, hexpr, hdenotes⟩ := exists_right_of_forall₂ hargs hv
      exact denotes_bounds hnext hresults (hexprs expr hexpr) hdenotes
  | .equates target other _ _ _, .assignment name value =>
    obtain ⟨htarget, _, hother⟩ := hstand
    simp only [Relation.vars, List.mem_cons, List.not_mem_nil, or_false] at hv
    rcases hv with rfl | rfl
    · exact hname name hsiteScope.1 htarget
    · exact denotes_bounds hnext hresults hsiteScope.2 hother
  | .applies .., .assignment .. => exact hstand.elim
  | .equates .., .call .. => exact hstand.elim

end SymbolTable

namespace CheckerM

variable {checker : Checker} {table : SymbolTable} {stmts : List Statement}

theorem ofTable_at {trace : Trace} (table : SymbolTable) (haccepting : trace.Accepting) :
    (Checker.ofTable table trace).At table [] (Arena.empty.grow table.size) :=
  ⟨⟨Checker.ofTable_arena table trace, haccepting⟩, rfl, rfl⟩

/-- A run on a table of its own has the relations of the statements, and nothing is known yet. -/
theorem generate_ofTable {trace : Trace} (stmts : List Statement)
    (haccepting : trace.Accepting) :
    Ends (generate stmts) (Checker.ofTable table trace)
      (fun _ c' => (∀ statement ∈ stmts, statement.InScope table) ∧
        c'.At table (table.relationsOf table.size stmts)
          (Arena.empty.grow (table.size + (stmts.flatMap Statement.calls).length)))
      fun failure _ => Offends stmts table failure := by
  have hgenerate := generate_ends_of_any stmts (ofTable_at table haccepting)
  rw [Arena.size_grow_empty, Arena.grow_grow, List.nil_append] at hgenerate
  exact hgenerate

theorem owns_relationsOf (hscope : ∀ statement ∈ stmts, statement.InScope table) :
    ∀ relation ∈ table.relationsOf table.size stmts, ∀ v ∈ relation.vars,
      (Arena.empty.grow (table.size + (stmts.flatMap Statement.calls).length)).Owns v := by
  intro relation hrelation v hv
  have hbounds := SymbolTable.vars_relationsOf (Nat.le_refl _) hscope relation hrelation v hv
  refine ⟨hbounds.1, ?_⟩
  rw [Arena.size_grow_empty]
  exact_mod_cast hbounds.2

/-- After the relations of a program have been generated the solver can be run. -/
theorem ready_of_generated
    (hsignatures : ∀ name signature, .function name signature ∈ table.symbols →
      signature.toTy.Ground)
    (hscope : ∀ statement ∈ stmts, statement.InScope table)
    (hc : checker.At table (table.relationsOf table.size stmts)
      (Arena.empty.grow (table.size + (stmts.flatMap Statement.calls).length))) :
    Ready checker := by
  have harena : checker.arena = _ := hc.session.arena_eq
  have hunbound : ∀ v, checker.arena.entry v = none := by
    intro v
    rw [harena, Arena.entry_grow]
    exact Arena.entry_empty v
  refine ⟨hc.session.accepting, ?_, ?_, ?_, ?_, ?_⟩
  · intro v ty hentry
    rw [hunbound v] at hentry
    cases hentry
  · intro v ty hentry
    rw [hunbound v] at hentry
    cases hentry
  · rw [hc.table_eq]
    exact hsignatures
  · rw [hc.table_eq, harena, Arena.size_grow_empty]
    omega
  · rw [hc.relations_eq, harena]
    exact owns_relationsOf hscope

end CheckerM

end Typeflow
