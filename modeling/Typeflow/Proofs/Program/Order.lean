import Typeflow.Proofs.Inference
import Typeflow.Proofs.Program.Lowering

/-!
Inference for a whole program depends only on which statements there are. A program is accepted
exactly if its names are declared once, it consists of references and calls of declared names, and
what it says about them is sound. The types that are found are those that are known. None of this
looks at the order of the statements.
-/

namespace Typeflow

def Statement.declared? : Statement → Option Declaration
  | .declare declaration => some declaration
  | _ => none

theorem declarations_eq {stmts : List Statement}
    (hknown : ∀ statement ∈ stmts, statement.isKnown = true) :
    declarations stmts = .ok (stmts.filterMap Statement.declared?) := by
  induction stmts with
  | nil => rfl
  | cons first rest ih =>
    obtain ⟨hfirst, hrest⟩ := List.forall_mem_cons.mp hknown
    cases first with
    | declare declaration =>
      rw [declarations, ih hrest]
      rfl
    | assign name value =>
      rw [declarations, ih hrest]
      rfl
    | _ => cases hfirst

/-- The names that a program can use: those it declares and those of the catalogue. -/
def declaredNames (stmts : List Statement) (catalogue : Catalogue) : List Identifier :=
  (declaredSymbols (stmts.filterMap Statement.declared?) catalogue).map Symbol.name

/-- The names of the program are declared once, its expressions are references and calls of
declared names, and what it says about them is sound. -/
structure Acceptable (catalogue : Catalogue) (stmts : List Statement) : Prop where
  nodup : (declaredNames stmts catalogue).Nodup
  supported : ∀ statement ∈ stmts, statement.isSupported = true
  declared : ∀ statement ∈ stmts, ∀ name ∈ statement.names, name ∈ declaredNames stmts catalogue
  sound : Sound catalogue (stmts.flatMap Statement.sites)

open Classical in
/-- The solution gives each name the type that is known about it. -/
structure Solution.Answers (solution : Solution) (catalogue : Catalogue)
    (stmts : List Statement) : Prop where
  lookup_iff : ∀ name ty, solution.lookup? name = some ty ↔ name ∈ declaredNames stmts catalogue ∧
    (Known catalogue (stmts.flatMap Statement.sites) name ty ∨
      ty = .unresolvable ∧ ∀ u, ¬ Known catalogue (stmts.flatMap Statement.sites) name u)
  unresolved_iff : ∀ name, name ∈ solution.unresolved.map Symbol.name ↔
    solution.lookup? name = some .unresolvable
  length_pending : solution.pending.length = ((stmts.flatMap Statement.sites).filter fun site =>
    decide (∀ ty, ¬ Known catalogue (stmts.flatMap Statement.sites) site.head ty)).length

variable {catalogue : Catalogue} {stmts : List Statement} {table : SymbolTable} {trace : Trace}
  {checker : Checker}

theorem Generated.lowered {ds : List Declaration}
    (hsymbols : table.symbols = declaredSymbols ds catalogue)
    (hgenerated : Generated stmts table trace checker) :
    Lowered catalogue (stmts.flatMap Statement.sites) checker := by
  obtain ⟨_, rfl, hrelations, hscope⟩ := hgenerated
  refine ⟨?_, ?_, ?_, ?_, ?_⟩
  · intro name signature
    rw [hsymbols, function_mem_declaredSymbols]
  · intro site hsite
    obtain ⟨statement, hstatement, hsite⟩ := List.mem_flatMap.mp hsite
    exact (hscope statement hstatement).sites site hsite
  · have hstands := SymbolTable.stands_relationsOf (Nat.le_refl _) hscope
      (List.Subset.refl (checker.table.relationsOf checker.table.size stmts))
    rw [← hrelations] at hstands
    exact hstands
  · rw [hrelations, SymbolTable.results_relationsOf]
    exact nodup_newVars _ _
  · rw [hrelations]
    exact (SymbolTable.inputs_relationsOf (Nat.le_refl _) (Nat.le_refl _) hscope).nodup_iff.mpr
      (nodup_newVars _ _)

theorem Solution.lookup?_of_types {solution : Solution} {known : TypeVar → Option Ty}
    (htable : solution.table = table)
    (htypes : solution.types = table.typesUnder known) (name : Identifier) :
    solution.lookup? name = if name ∈ table.names then
      some ((known (table.var name)).getD .unresolvable) else none := by
  unfold Solution.lookup?
  rw [htable]
  split
  · rename_i symbol hlookup
    obtain ⟨hmem, rfl⟩ := SymbolTable.lookup?_eq_some_iff.mp hlookup
    have hname : symbol.name ∈ table.names := by
      rw [SymbolTable.names_eq]
      exact List.mem_map_of_mem hmem
    rw [Solution.typeOf_of_types htypes hmem, if_pos hname]
    rfl
  · rename_i hlookup
    rw [if_neg (SymbolTable.lookup?_eq_none_iff.mp hlookup)]

theorem Solution.mem_unresolved_iff {solution : Solution} {known : TypeVar → Option Ty}
    (htable : solution.table = table)
    (htypes : solution.types = table.typesUnder known) (name : Identifier) :
    name ∈ solution.unresolved.map Symbol.name ↔
      solution.lookup? name = some .unresolvable := by
  have hmark : ∀ ty : Ty, ty.isUnresolvable = true ↔ ty = .unresolvable := by
    intro ty
    cases ty <;> simp [Ty.isUnresolvable]
  rw [Solution.lookup?_of_types htable htypes, SymbolTable.names_eq]
  unfold Solution.unresolved
  rw [htypes, SymbolTable.typesUnder]
  simp only [List.mem_map, List.mem_filter, hmark]
  constructor
  · rintro ⟨_, ⟨_, ⟨⟨symbol, hmem, rfl⟩, hty⟩, rfl⟩, rfl⟩
    rw [if_pos ⟨symbol, hmem, rfl⟩]
    exact congrArg some hty
  · intro h
    split at h
    · rename_i hname
      obtain ⟨symbol, hmem, rfl⟩ := hname
      exact ⟨symbol, ⟨_, ⟨⟨symbol, hmem, rfl⟩, Option.some.inj h⟩, rfl⟩, rfl⟩
    · cases h

theorem Solution.Describes.answers {solution : Solution} (h : solution.Describes checker)
    (hlowered : Lowered catalogue (stmts.flatMap Statement.sites) checker)
    (hconsistent : Consistent checker)
    (hnames : checker.table.names = declaredNames stmts catalogue) :
    solution.Answers catalogue stmts := by
  obtain ⟨known, hfacts, htypes⟩ := h.types_eq
  refine ⟨?_, ?_, ?_⟩
  · intro name ty
    rw [Solution.lookup?_of_types h.table_eq htypes, ← hnames]
    by_cases hname : name ∈ checker.table.names
    · have hiff : ∀ u, known (checker.table.var name) = some u ↔
          Known catalogue (stmts.flatMap Statement.sites) name u := fun u =>
        (hfacts _ _).trans (hlowered.fact_var_iff hname)
      simp only [hname, if_true, true_and, Option.some.injEq, ← hiff]
      cases known (checker.table.var name) with
      | none => simp [eq_comm]
      | some found => simp
    · simp [hname]
  · exact Solution.mem_unresolved_iff h.table_eq htypes
  · rw [h.pending_eq]
    exact hlowered.length_blockedRelations hconsistent

theorem SolverError.exists_error {failure : Failure} (h : SolverError failure) :
    ∃ error, failure = .error error := by
  rcases h with ⟨error, rfl, _⟩ | ⟨_, _, _, _, _, _, rfl, _⟩
  · exact ⟨error, rfl⟩
  · exact ⟨_, rfl⟩

/-- Resolving the symbols of a program and inferring their types succeeds exactly on acceptable
programs. -/
theorem inferProgram_ends (hconcrete : catalogue.Concrete)
    (hknown : ∀ statement ∈ stmts, statement.isKnown = true) (htrace : trace.Accepting) :
    Ends (do infer stmts (← resolveSymbols stmts catalogue)) trace
      (fun solution _ => Acceptable catalogue stmts ∧ solution.Answers catalogue stmts)
      fun failure _ => (∃ error, failure = .error error) ∧ ¬ Acceptable catalogue stmts := by
  have hresolve : Ends (resolveSymbols stmts catalogue) trace _ _ :=
    resolveSymbols_accepting (declarations_eq hknown) htrace
  refine Ends.bind (hresolve.mono (fun _ _ h => h)
    fun _ _ h => ⟨h.1, fun hacceptable => h.2 hacceptable.nodup⟩) ?_
  rintro table trace' ⟨hsymbols, htrace'⟩
  have hdeclared := SymbolTable.symbols_of_ofSymbols hsymbols
  have hnames : table.names = declaredNames stmts catalogue := by
    rw [SymbolTable.names_eq, hdeclared]
    rfl
  have hsignatures := signatures_ground hconcrete hdeclared
  refine (infer_ends hsignatures hknown htrace').mono ?_ ?_
  · rintro solution _ ⟨checker, hgenerated, hconsistent, hdescribes⟩
    have hlowered := hgenerated.lowered hdeclared
    refine ⟨⟨?_, ?_, ?_, hlowered.consistent_iff.mp hconsistent⟩,
      hdescribes.answers hlowered hconsistent ?_⟩
    · rw [← hnames]
      exact SymbolTable.nodup_names _
    · exact fun statement hmem => (Statement.inScope_iff.mp (hgenerated.inScope statement hmem)).1
    · rw [← hnames]
      exact fun statement hmem => (Statement.inScope_iff.mp (hgenerated.inScope statement hmem)).2
    · rw [hgenerated.table_eq, hnames]
  · rintro failure _ (hoffence | ⟨checker, hgenerated, herror, hnot⟩)
    · obtain ⟨error, rest, hoffences, rfl⟩ := hoffence
      refine ⟨⟨error, rfl⟩, fun hacceptable => ?_⟩
      refine not_failsAt_of_inScope (fun statement hmem => ?_) _ ⟨error, rest, hoffences, rfl⟩
      refine Statement.inScope_iff.mpr ⟨hacceptable.supported statement hmem, ?_⟩
      rw [hnames]
      exact hacceptable.declared statement hmem
    · have hlowered := hgenerated.lowered hdeclared
      exact ⟨herror.exists_error, fun hacceptable =>
        hnot (hlowered.consistent_iff.mpr hacceptable.sound)⟩

section Order

variable {stmts' : List Statement}

theorem declaredNames_perm (catalogue : Catalogue) (hperm : stmts.Perm stmts') :
    (declaredNames stmts catalogue).Perm (declaredNames stmts' catalogue) := by
  unfold declaredNames declaredSymbols
  exact (((hperm.filterMap _).map _).append_right _).map _

theorem Known.perm (hperm : stmts.Perm stmts') (name : Identifier) (ty : Ty) :
    Known catalogue (stmts.flatMap Statement.sites) name ty ↔
      Known catalogue (stmts'.flatMap Statement.sites) name ty :=
  ⟨Known.mono (hperm.flatMap_right _).subset, Known.mono (hperm.symm.flatMap_right _).subset⟩

theorem Acceptable.perm (hperm : stmts.Perm stmts') (h : Acceptable catalogue stmts) :
    Acceptable catalogue stmts' := by
  have hnames := declaredNames_perm catalogue hperm
  refine ⟨hnames.nodup_iff.mp h.nodup, ?_, ?_,
    h.sound.anti (hperm.symm.flatMap_right _).subset⟩
  · exact fun statement hmem => h.supported statement (hperm.symm.subset hmem)
  · intro statement hmem name hname
    exact hnames.subset (h.declared statement (hperm.symm.subset hmem) name hname)

theorem Solution.Answers.perm {solution solution' : Solution} (hperm : stmts.Perm stmts')
    (h : solution.Answers catalogue stmts) (h' : solution'.Answers catalogue stmts') :
    (∀ name, solution.lookup? name = solution'.lookup? name) ∧
      (∀ name, name ∈ solution.unresolved.map Symbol.name ↔
        name ∈ solution'.unresolved.map Symbol.name) ∧
      solution.pending.length = solution'.pending.length := by
  have hlookup : ∀ name, solution.lookup? name = solution'.lookup? name := by
    intro name
    apply Option.ext
    intro ty
    rw [h.lookup_iff, h'.lookup_iff, (declaredNames_perm catalogue hperm).mem_iff]
    simp only [Known.perm hperm]
  refine ⟨hlookup, ?_, ?_⟩
  · intro name
    rw [h.unresolved_iff, h'.unresolved_iff, hlookup]
  · rw [h.length_pending, h'.length_pending, ← (hperm.flatMap_right _).filter _ |>.length_eq]
    refine congrArg List.length (List.filter_congr fun site _ => ?_)
    exact decide_eq_decide.mpr (forall_congr' fun ty => not_congr (Known.perm hperm _ ty))

/-- The order of the statements does not matter. Resolving and inferring fails on both of two
programs with the same statements or succeeds on both; in the second case every name has the same
type, the same names are unresolved, and as many relations are pending. -/
theorem inference_order_irrelevant {trace' : Trace} (hconcrete : catalogue.Concrete)
    (hperm : stmts.Perm stmts') (hknown : ∀ statement ∈ stmts, statement.isKnown = true)
    (htrace : trace.Accepting) (htrace' : trace'.Accepting) :
    (∃ error error' after after',
      (resolveSymbols stmts catalogue >>= infer stmts) trace = .error (.error error) after ∧
      (resolveSymbols stmts' catalogue >>= infer stmts') trace' =
        .error (.error error') after') ∨
    ∃ solution solution' after after',
      (resolveSymbols stmts catalogue >>= infer stmts) trace = .ok solution after ∧
      (resolveSymbols stmts' catalogue >>= infer stmts') trace' = .ok solution' after' ∧
      (∀ name, solution.lookup? name = solution'.lookup? name) ∧
      (∀ name, name ∈ solution.unresolved.map Symbol.name ↔
        name ∈ solution'.unresolved.map Symbol.name) ∧
      solution.pending.length = solution'.pending.length := by
  have hrun := inferProgram_ends hconcrete hknown htrace
  have hrun' := inferProgram_ends hconcrete
    (fun statement hmem => hknown statement (hperm.symm.subset hmem)) htrace'
  cases hresult : (resolveSymbols stmts catalogue >>= infer stmts) trace with
  | ok solution after =>
    obtain ⟨hacceptable, hanswers⟩ := hrun.good_of_eq hresult
    cases hresult' : (resolveSymbols stmts' catalogue >>= infer stmts') trace' with
    | ok solution' after' =>
      exact Or.inr ⟨solution, solution', after, after', rfl, rfl,
        hanswers.perm hperm (hrun'.good_of_eq hresult').2⟩
    | error failure' after' =>
      exact absurd (hacceptable.perm hperm) (hrun'.bad_of_eq hresult').2
  | error failure after =>
    obtain ⟨⟨error, rfl⟩, hnot⟩ := hrun.bad_of_eq hresult
    cases hresult' : (resolveSymbols stmts' catalogue >>= infer stmts') trace' with
    | ok solution' after' =>
      exact absurd ((hrun'.good_of_eq hresult').1.perm hperm.symm) hnot
    | error failure' after' =>
      obtain ⟨⟨error', rfl⟩, _⟩ := hrun'.bad_of_eq hresult'
      exact Or.inl ⟨error, error', after, after', rfl, rfl⟩

/-- In `var x = f(g(y)); var y;` and in `var y; var x = f(g(y));` the variable `x` has the result
of `f` and `y` the parameter of `g`. -/
theorem inference_order_irrelevant_of_nested_call :
    let f : Identifier := ⟨[102]⟩
    let g : Identifier := ⟨[103]⟩
    let x : Identifier := ⟨[120]⟩
    let y : Identifier := ⟨[121]⟩
    let b : Ty := .name ⟨[98]⟩
    let c : Ty := .name ⟨[99]⟩
    let i : Ty := .name ⟨[105]⟩
    let catalogue := Catalogue.ofList [(f, ⟨[i], b⟩), (g, ⟨[c], i⟩)]
    let first : Statement := .declare ⟨x, some (.call f [.call g [.ref y]])⟩
    let second : Statement := .declare ⟨y, none⟩
    catalogue.Concrete ∧ [second, first].Perm [first, second] ∧
      (∀ statement ∈ [second, first], statement.isKnown = true) ∧
      ∃ solution solution' after after',
        (resolveSymbols [second, first] catalogue >>= infer [second, first]) Trace.off =
          .ok solution after ∧
        (resolveSymbols [first, second] catalogue >>= infer [first, second]) Trace.off =
          .ok solution' after' ∧
        (solution.lookup? x = some b ∧ solution.lookup? y = some c) ∧
        (solution'.lookup? x = some b ∧ solution'.lookup? y = some c) ∧
        ∀ name, solution.lookup? name = solution'.lookup? name := by
  intro f g x y b c i catalogue first second
  have hconcrete : catalogue.Concrete := by decide
  have hperm : [second, first].Perm [first, second] := List.Perm.swap first second []
  have hknown : ∀ statement ∈ [second, first], statement.isKnown = true := by decide
  obtain ⟨solution, after, hok, htypes⟩ : ∃ solution after,
      (resolveSymbols [second, first] catalogue >>= infer [second, first]) Trace.off =
        .ok solution after ∧ solution.lookup? x = some b ∧ solution.lookup? y = some c :=
    Ends.exists_ok (by decide +kernel)
  refine ⟨hconcrete, hperm, hknown, ?_⟩
  rcases inference_order_irrelevant hconcrete hperm hknown Trace.off_accepting
    Trace.off_accepting with
    ⟨_, _, _, _, hfails, _⟩ | ⟨found, solution', after', after'', hfound, hok', hsame, _⟩
  · rw [hok] at hfails
    cases hfails
  · rw [hok] at hfound
    cases hfound
    have htypes' : solution'.lookup? x = some b ∧ solution'.lookup? y = some c := by
      rw [← hsame, ← hsame]
      exact htypes
    exact ⟨solution, solution', after, after'', hok, hok', htypes, htypes', hsame⟩

end Order

end Typeflow
