import Typeflow.Program.Run
import Typeflow.Proofs.Program.Order
import Typeflow.Proofs.Program.Reading

/-!
Running programs that have been read. The run never ends in a fault. It reports the types of all
symbols, each of them ground or the mark of an undetermined type, or it fails with an error that a
program can be blamed for.
-/

namespace Typeflow

/-- The errors of programs. The types of a conflict are ground and differ, and its cause is that
they did not compare. -/
structure InferenceError.OfProgram (error : InferenceError) : Prop where
  kind_mem : error.kind ∈ [ErrorKind.duplicate, .undefined, .mismatch, .arity, .conflicting]
  conflict : ∀ target other left right statement cause,
    error = .conflicting target other left right statement cause →
      (cause.kind = .mismatch ∨ cause.kind = .arity) ∧ left.Ground ∧ right.Ground ∧ left ≠ right

theorem InferenceError.ofProgram_of_kind {error : InferenceError}
    (h : error.kind ∈ [ErrorKind.duplicate, .undefined, .mismatch, .arity]) :
    error.OfProgram := by
  refine ⟨?_, ?_⟩
  · simp only [List.mem_cons, List.not_mem_nil, or_false] at h ⊢
    tauto
  · rintro target other left right statement cause rfl
    simp [InferenceError.kind] at h

theorem Refusal.ofProgram {failure : Failure} (h : Refusal failure) :
    ∃ error, failure = .error error ∧ error.OfProgram := by
  obtain ⟨error, rfl, hkind⟩ := h
  refine ⟨error, rfl, InferenceError.ofProgram_of_kind ?_⟩
  rcases hkind with hkind | hkind <;> simp [hkind]

theorem SolverError.ofProgram {failure : Failure} (h : SolverError failure) :
    ∃ error, failure = .error error ∧ error.OfProgram := by
  rcases h with hrefusal | ⟨target, other, left, right, statement, cause, rfl, hleft, hright, hne,
    _, hcause, hkind⟩
  · exact hrefusal.ofProgram
  · cases hcause
    refine ⟨_, rfl, by simp [InferenceError.kind], ?_⟩
    rintro _ _ _ _ _ _ ⟨⟩
    exact ⟨hkind, hleft, hright, hne⟩

namespace SymbolTable

variable {table : SymbolTable}

/-- Symbols do not fit into a table because of a name that is there already. -/
theorem foldlM_define_error {symbols : List Symbol} {error : InferenceError}
    (h : symbols.foldlM define table = .error error) : error.kind = .duplicate := by
  induction symbols generalizing table with
  | nil => cases h
  | cons first rest ih =>
    rw [List.foldlM_cons] at h
    cases hdefine : table.define first with
    | ok middle =>
      rw [hdefine] at h
      exact ih h
    | error found =>
      rw [hdefine] at h
      cases h
      cases hlookup : table.lookup? first.name with
      | some earlier =>
        rw [define_of_taken hlookup] at hdefine
        cases hdefine
        rfl
      | none =>
        obtain ⟨_, hok, _⟩ := define_of_new (lookup?_eq_none_iff.mp hlookup)
        rw [hok] at hdefine
        cases hdefine

end SymbolTable

/-- The solution has a type for each symbol, and functions have their signatures. -/
structure Solution.Settles (solution : Solution) : Prop where
  determined : ∀ symbol ∈ solution.table.symbols,
    ∃ ty, solution.typeOf symbol = .ok ty ∧ (ty = .unresolvable ∨ ty.Ground)
  functions : ∀ name signature, .function name signature ∈ solution.table.symbols →
    solution.typeOf (.function name signature) = .ok signature.toTy

theorem Solution.Describes.settles {solution : Solution} {checker : Checker}
    (h : solution.Describes checker)
    (hsignatures : ∀ name signature, .function name signature ∈ checker.table.symbols →
      signature.toTy.Ground) : solution.Settles := by
  obtain ⟨known, hknown, htypes⟩ := h.types_eq
  refine ⟨fun symbol hmem => ?_, fun name signature hmem => ?_⟩
  · rw [h.table_eq] at hmem
    refine ⟨_, Solution.typeOf_of_types htypes hmem, ?_⟩
    cases hentry : known (checker.table.var symbol.name) with
    | none => exact Or.inl rfl
    | some ty => exact Or.inr (((hknown _ _).mp hentry).hereditary Ty.ground_fn.mp hsignatures)
  · rw [h.table_eq] at hmem
    have hfact := Fact.builtin hmem (Checker.varOf_eq hmem)
    rw [Solution.typeOf_of_types htypes hmem, (hknown _ _).mpr hfact]
    rfl

theorem resolveSymbols_errors (stmts : List Statement) (catalogue : Catalogue) {trace : Trace}
    (htrace : trace.Accepting) :
    Ends (resolveSymbols stmts catalogue) trace (fun _ _ => True)
      fun failure _ => ∀ error, failure = .error error → error.kind = .duplicate := by
  unfold resolveSymbols
  cases declarations stmts with
  | error fault => exact Ends.throw nofun
  | ok ds =>
    dsimp only
    cases hsymbols : SymbolTable.ofSymbols (declaredSymbols ds catalogue) with
    | error found =>
      refine Ends.throw ?_
      rintro _ ⟨⟩
      exact SymbolTable.foldlM_define_error hsymbols
    | ok table =>
      exact Ends.bind (Ends.of_total (Trace.write_accepting htrace _ _)) fun _ _ _ =>
        Ends.pure trivial

/-- The run of a usable program reports the types of its declared symbols, or it fails with an
error of the program. -/
theorem Program.run_ends {program : Program} {trace : Trace} (husable : program.Usable)
    (htrace : trace.Accepting) :
    Ends program.run trace
      (fun report _ => report.solution.Settles ∧ report.solution.table.symbols =
        declaredSymbols (program.statements.filterMap Statement.declared?) program.builtins)
      fun failure _ => ∃ error, failure = .error error ∧ error.OfProgram := by
  have hresolve : Ends (resolveSymbols program.statements program.builtins) trace _ _ :=
    (resolveSymbols_accepting (declarations_eq husable.known) htrace).and
      (resolveSymbols_errors _ _ htrace)
  refine Ends.bind (hresolve.mono (fun _ _ h => h.1) ?_) ?_
  · rintro failure _ ⟨⟨⟨error, rfl⟩, _⟩, hkind⟩
    exact ⟨error, rfl, InferenceError.ofProgram_of_kind (by simp [hkind error rfl])⟩
  rintro table trace' ⟨hsymbols, htrace'⟩
  have hdeclared := SymbolTable.symbols_of_ofSymbols hsymbols
  have hsignatures := signatures_ground husable.concrete hdeclared
  refine Ends.bind ((infer_ends hsignatures husable.known htrace').mono
    (fun _ _ h => h) ?_) ?_
  · rintro failure _ (⟨error, rest, hoffences, rfl⟩ | ⟨_, _, herror, _⟩)
    · -- The first offence is one of a statement without unsupported forms.
      have hmem : error ∈ program.statements.flatMap
          fun statement => statement.offences table := by
        rw [hoffences]
        exact List.mem_cons_self
      obtain ⟨statement, hstatement, herror⟩ := List.mem_flatMap.mp hmem
      have hkind := (Statement.offences_kind error herror).resolve_right
        fun h => h.2 (husable.supported statement hstatement)
      exact ⟨error, rfl, InferenceError.ofProgram_of_kind (by simp [hkind])⟩
    · exact herror.ofProgram
  · rintro solution _ ⟨checker, hgenerated, _, hdescribes⟩
    obtain rfl := hgenerated.table_eq
    refine Ends.pure ⟨hdescribes.settles hsignatures, ?_⟩
    rw [hdescribes.table_eq, hdeclared]

/-- A program that has been read is safe to run. Its signatures are ground. The run reports a type
for every symbol, which is ground or the mark itself and for a function its signature, or it fails
with an error of the program. -/
theorem read_program_runs_safely {draft : Draft} {program : Program} {trace : Trace}
    (hprogram : draft.toProgram = .ok program) (htrace : trace.Accepting) :
    program.builtins.Concrete ∧
    ((∃ report trace', program.run trace = .ok report trace' ∧
        report.solution.table.symbols =
          declaredSymbols (program.statements.filterMap Statement.declared?) program.builtins ∧
        (∀ symbol ∈ report.solution.table.symbols, ∃ ty, report.solution.typeOf symbol = .ok ty ∧
          (ty = .unresolvable ∨ ty.Ground)) ∧
        ∀ name signature, (name, signature) ∈ program.builtins.entries →
          report.solution.typeOf (.function name signature) = .ok signature.toTy) ∨
      ∃ error trace', program.run trace = .error (.error error) trace' ∧
        error.kind ∈ [ErrorKind.duplicate, .undefined, .mismatch, .arity, .conflicting] ∧
        ∀ target other left right statement cause,
          error = .conflicting target other left right statement cause →
            (cause.kind = .mismatch ∨ cause.kind = .arity) ∧
              left.Ground ∧ right.Ground ∧ left ≠ right) := by
  have husable := draft.toProgram_usable program hprogram
  have hends := Program.run_ends husable htrace
  refine ⟨husable.concrete, ?_⟩
  cases hrun : program.run trace with
  | ok report trace' =>
    obtain ⟨hsettles, hsymbols⟩ := hends.good_of_eq hrun
    refine Or.inl ⟨report, trace', rfl, hsymbols, hsettles.determined, ?_⟩
    intro name signature hmem
    refine hsettles.functions name signature ?_
    rw [hsymbols, function_mem_declaredSymbols]
    exact hmem
  | error failure trace' =>
    obtain ⟨error, rfl, herror⟩ := hends.bad_of_eq hrun
    exact Or.inr ⟨error, trace', rfl, herror.kind_mem, herror.conflict⟩

/-- With `f : () -> i` and `g : () -> b`, the program `var x = f(); var z = z;` is reported on,
and `var x = f(); x = g();` has a conflict. -/
theorem read_program_runs_safely_of_conflict :
    let f : Identifier := ⟨[102]⟩
    let g : Identifier := ⟨[103]⟩
    let x : Identifier := ⟨[120]⟩
    let z : Identifier := ⟨[122]⟩
    let call (name : Identifier) : ExprDraft := ⟨some name.text, [], none⟩
    let draft (second : StatementDraft) : Draft :=
      ⟨some [(f.text, ⟨[], [105]⟩), (g.text, ⟨[], [98]⟩)],
        [⟨some x.text, some (call f), none, none⟩, second], [], []⟩
    let program (second : Statement) : Program :=
      ⟨.ofList [(f, ⟨[], .name ⟨[105]⟩⟩), (g, ⟨[], .name ⟨[98]⟩⟩)],
        [.declare ⟨x, some (.call f [])⟩, second], .empty, []⟩
    let waiting : Statement := .declare ⟨z, some (.ref z)⟩
    let clashing : Statement := .assign x (.call g [])
    ((draft ⟨some z.text, some ⟨none, [], some z.text⟩, none, none⟩).toProgram =
        .ok (program waiting) ∧
      ∃ report trace, (program waiting).run Trace.off = .ok report trace ∧
        ∀ symbol ∈ report.solution.table.symbols, ∃ ty, report.solution.typeOf symbol = .ok ty ∧
          (ty = .unresolvable ∨ ty.Ground)) ∧
    (draft ⟨none, none, some x.text, some (call g)⟩).toProgram = .ok (program clashing) ∧
      ∃ target other left right cause trace,
        (program clashing).run Trace.off =
          .error (.error (.conflicting target other left right clashing cause)) trace ∧
        left.Ground ∧ right.Ground ∧ left ≠ right := by
  intro f g x z call draft program waiting clashing
  have hwaiting : (draft ⟨some z.text, some ⟨none, [], some z.text⟩, none, none⟩).toProgram =
      .ok (program waiting) := by rfl
  have hclashing : (draft ⟨none, none, some x.text, some (call g)⟩).toProgram =
      .ok (program clashing) := by rfl
  refine ⟨⟨hwaiting, ?_⟩, hclashing, ?_⟩
  · obtain ⟨_, _, hrun, _⟩ : ∃ report trace, (program waiting).run Trace.off = .ok report trace ∧
        True := Ends.exists_ok (by decide +kernel)
    obtain ⟨_, ⟨report, trace, hok, _, hsymbols, _⟩ | ⟨error, trace, herror, _⟩⟩ :=
      read_program_runs_safely hwaiting Trace.off_accepting
    · exact ⟨report, trace, hok, hsymbols⟩
    · rw [hrun] at herror
      cases herror
  · let error : InferenceError := .conflicting (.variable ⟨x, some (.call f [])⟩)
      (.function g ⟨[], .name ⟨[98]⟩⟩) (.name ⟨[105]⟩) (.name ⟨[98]⟩) clashing
      (.mismatch (.name ⟨[105]⟩) (.name ⟨[98]⟩))
    obtain ⟨_, _, hrun, rfl⟩ : ∃ failure trace,
        (program clashing).run Trace.off = .error failure trace ∧ failure = .error error :=
      Ends.exists_error (by decide +kernel)
    obtain ⟨_, ⟨report, trace, hok, _⟩ | ⟨found, trace, herror, _, hconflict⟩⟩ :=
      read_program_runs_safely hclashing Trace.off_accepting
    · rw [hrun] at hok
      cases hok
    · rw [hrun] at herror
      cases herror
      exact ⟨_, _, _, _, _, _, hrun, (hconflict _ _ _ _ _ _ rfl).2⟩

end Typeflow
