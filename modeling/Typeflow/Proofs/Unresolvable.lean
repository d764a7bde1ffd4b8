import Typeflow.Proofs.Checker.Containment
import Typeflow.Proofs.Inference
import Typeflow.Proofs.Tracing

/-!
The unresolvable mark in a whole run. Whatever the signatures of a catalogue hold, a variable is
either unresolvable as a whole or has a type in which the mark does not stand. And the mark does
not take part in errors: the types of a mismatch are without it, unless a value was assigned to a
function whose own signature holds it.
-/

namespace Typeflow

theorem InferenceError.Mismatches.kind {error : InferenceError} {left right : Ty}
    (h : error.Mismatches left right) : error.kind = .mismatch ∨ error.kind = .conflicting := by
  rcases h with rfl | ⟨_, _, _, _, _, rfl⟩
  · exact Or.inl rfl
  · exact Or.inr rfl

/-- A run that stops before the solver does not report a mismatch. -/
theorem CheckerM.Offends.attributed {stmts : List Statement} {table : SymbolTable}
    {failure : Failure} (h : CheckerM.Offends stmts table failure) :
    failure.Attributed table := by
  intro error left right herror hmismatch _
  rcases h with ⟨fault, rfl⟩ | ⟨statement, _, offence, hoffence, rfl⟩
  · cases herror
  · cases herror
    have hkind := hmismatch.kind
    rcases Statement.offences_kind error hoffence with hundefined | ⟨hunsupported, _⟩
    · simp [hundefined] at hkind
    · simp [hunsupported] at hkind

theorem infer_contained {table : SymbolTable} {trace : Trace}
    (hsignatures : ∀ name signature, .function name signature ∈ table.symbols →
      signature.toTy.Closed) (stmts : List Statement) (htrace : trace.Accepting) :
    Ends (infer stmts table) trace
      (fun solution _ => ∃ arena, Contained table solution.pending arena ∧
        solution.types = table.typesUnder arena.entry)
      fun failure _ => failure.Attributed table := by
  refine infer_of_run ?_
  refine Ends.bind ((CheckerM.generate_ofTable stmts htrace).mono (fun _ _ h => h)
    fun _ _ h => h.attributed) ?_
  intro _ start h
  obtain ⟨hscope, hstart⟩ := h
  have hunbound : ∀ v, (Arena.empty.grow
      (table.size + (stmts.flatMap Statement.calls).length)).entry v = none := by
    intro v
    rw [Arena.entry_grow]
    exact Arena.entry_empty v
  have hsize : table.size ≤ (Arena.empty.grow
      (table.size + (stmts.flatMap Statement.calls).length)).size := by
    rw [Arena.size_grow_empty]
    omega
  have horderly : table.Orderly (table.relationsOf table.size stmts) :=
    (SymbolTable.scheduled_relationsOf (Nat.le_refl _) hscope).orderly (Nat.le_refl _)
  refine Ends.bind (CheckerM.solve_contained hsignatures hunbound hsize
    (CheckerM.owns_relationsOf hscope) horderly hstart) ?_
  intro _ c h
  obtain ⟨rest, arena, hcontained, hc⟩ := h
  refine (CheckerM.solution_ends hc hcontained.closed hcontained.size_le).mono ?_
    fun _ _ h => h
  intro solution _ h
  obtain ⟨_, htypes, hpending⟩ := h
  exact ⟨arena, by rw [hpending]; exact hcontained, htypes⟩

/-- A variable has a ground type or is unresolvable as a whole. -/
theorem Contained.typeOf_variable {table : SymbolTable} {solution : Solution} {arena : Arena}
    {relations : List Relation} (h : Contained table relations arena)
    (htypes : solution.types = table.typesUnder arena.entry) {declaration : Declaration}
    (hmem : .variable declaration ∈ table.symbols) :
    ∃ ty, solution.typeOf (.variable declaration) = .ok ty ∧
      (ty = .unresolvable ∨ ty.Ground) := by
  refine ⟨_, Solution.typeOf_of_types htypes hmem, ?_⟩
  cases hentry : arena.entry (table.var (Symbol.variable declaration).name) with
  | none => exact Or.inl rfl
  | some ty => exact Or.inr ⟨h.closed _ _ hentry, h.clean _ hmem (by simp) ty hentry⟩

/-- Unresolvable values stay contained. On a table resolved from any program, with signatures that
are free of variables and of empty places but may hold the mark anywhere, a run that succeeds
gives every variable a ground type or leaves it unresolvable as a whole. A run that fails because
two types do not match shows the mark in one of them only if a value was assigned to a function of
the catalogue whose own signature holds the mark. -/
theorem unresolvable_stays_contained {program stmts : List Statement} {catalogue : Catalogue}
    {table : SymbolTable} {trace trace₀ trace₁ : Trace}
    (hclosed : ∀ entry ∈ catalogue.entries, entry.2.toTy.Closed)
    (htable : resolveSymbols program catalogue trace₀ = .ok table trace₁) :
    (∀ solution trace', infer stmts table trace = .ok solution trace' →
      ∀ declaration, .variable declaration ∈ table.symbols →
        ∃ ty, solution.typeOf (.variable declaration) = .ok ty ∧
          (ty = .unresolvable ∨ ty.Ground)) ∧
    ∀ error trace' left right, infer stmts table trace = .error (.error error) trace' →
      error.Mismatches left right →
      left.mentionsUnresolvable = true ∨ right.mentionsUnresolvable = true →
      ∃ name signature other targetType otherType statement,
        error = .conflicting (.function name signature) other targetType otherType statement
          (.mismatch left right) ∧
        (name, signature) ∈ catalogue.entries ∧ signature.toTy.mentionsUnresolvable = true := by
  obtain ⟨ds, _, hsymbols⟩ := (resolveSymbols_ends program catalogue trace₀).good_of_eq htable
  have hdeclared := SymbolTable.symbols_of_ofSymbols hsymbols
  have hfunctions : ∀ name signature, .function name signature ∈ table.symbols →
      (name, signature) ∈ catalogue.entries := by
    intro name signature hmem
    rw [hdeclared, function_mem_declaredSymbols] at hmem
    exact hmem
  have hcontained := infer_contained
    (fun name signature hmem => hclosed _ (hfunctions name signature hmem)) stmts
    Trace.off_accepting
  -- A trace does not change the outcome, so it may be switched off.
  have hoff := infer_scripted stmts table Trace.off
  constructor
  · intro solution trace' hok declaration hmem
    have hrun : infer stmts table trace = concluded (.ok solution) trace' := hok
    obtain ⟨arena, harena, htypes⟩ := hcontained.good_of_eq (hoff.off hrun (by simp))
    exact harena.typeOf_variable htypes hmem
  · intro error trace' left right herror hmismatch hmark
    have hrun : infer stmts table trace = concluded (.error (.error error)) trace' := herror
    have hattributed := hcontained.bad_of_eq (hoff.off hrun (by simp))
    obtain ⟨name, signature, other, targetType, otherType, statement, heq, hfunction,
      hsignature⟩ :=
      hattributed error left right rfl hmismatch hmark
    exact ⟨name, signature, other, targetType, otherType, statement, heq,
      hfunctions name signature hfunction, hsignature⟩

/-- Here `f` returns the mark. In `var x = h(f()); var y = g;` the call of `h` waits for ever, and
`x` stays unresolvable although `h` returns `b`; `y` has the type of `g`. A further `f = y` fails,
because the mark in the signature of `f` does not match `b`. -/
theorem unresolvable_stays_contained_of_nested_call :
    let f : Identifier := ⟨[102]⟩
    let g : Identifier := ⟨[103]⟩
    let h : Identifier := ⟨[104]⟩
    let x : Declaration := ⟨⟨[120]⟩, some (.call h [.call f []])⟩
    let y : Declaration := ⟨⟨[121]⟩, some (.ref g)⟩
    let b : Ty := .name ⟨[98]⟩
    let catalogue := Catalogue.ofList [(f, ⟨[], .unresolvable⟩), (g, ⟨[], b⟩), (h, ⟨[b], b⟩)]
    let stmts : List Statement := [.declare x, .declare y]
    let table := (SymbolTable.ofSymbols [.variable x, .variable y,
      .function f ⟨[], .unresolvable⟩, .function g ⟨[], b⟩,
      .function h ⟨[b], b⟩]).toOption.getD .empty
    let assignment : Statement := .assign f (.ref y.name)
    (∀ entry ∈ catalogue.entries, entry.2.toTy.Closed) ∧
      resolveSymbols stmts catalogue Trace.off = .ok table Trace.off ∧
      (∃ solution trace', infer stmts table Trace.off = .ok solution trace' ∧
        (solution.typeOf (.variable x) = .ok .unresolvable ∧
          solution.typeOf (.variable y) = .ok (.fn [] b)) ∧
        ∀ declaration, .variable declaration ∈ table.symbols →
          ∃ ty, solution.typeOf (.variable declaration) = .ok ty ∧
            (ty = .unresolvable ∨ ty.Ground)) ∧
      ∃ error trace', infer (stmts ++ [assignment]) table Trace.off =
        .error (.error error) trace' ∧
        error = .conflicting (.function f ⟨[], .unresolvable⟩) (.variable y)
          (.fn [] .unresolvable)
          (.fn [] b) assignment (.mismatch .unresolvable b) ∧
        ∃ name signature other targetType otherType statement,
          error = .conflicting (.function name signature) other targetType otherType statement
            (.mismatch .unresolvable b) ∧
          (name, signature) ∈ catalogue.entries ∧ signature.toTy.mentionsUnresolvable = true := by
  intro f g h x y b catalogue stmts table assignment
  have hclosed : ∀ entry ∈ catalogue.entries, entry.2.toTy.Closed := by decide
  have htable : resolveSymbols stmts catalogue Trace.off = .ok table Trace.off := by rfl
  have hsolved : ∃ solution trace', infer stmts table Trace.off = .ok solution trace' ∧
      solution.typeOf (.variable x) = .ok .unresolvable ∧
      solution.typeOf (.variable y) = .ok (.fn [] b) :=
    Ends.exists_ok (by decide +kernel)
  have hfailed : ∃ failure trace', infer (stmts ++ [assignment]) table Trace.off =
      .error failure trace' ∧ failure = .error (.conflicting (.function f ⟨[], .unresolvable⟩)
        (.variable y) (.fn [] .unresolvable) (.fn [] b) assignment (.mismatch .unresolvable b)) :=
    Ends.exists_error (by decide +kernel)
  obtain ⟨solution, trace₁, hok, htypes⟩ := hsolved
  obtain ⟨_, trace₂, herror, rfl⟩ := hfailed
  refine ⟨hclosed, htable, ⟨solution, trace₁, hok, htypes, ?_⟩, _, trace₂, herror, rfl, ?_⟩
  · exact (unresolvable_stays_contained hclosed htable).1 solution trace₁ hok
  · exact (unresolvable_stays_contained hclosed htable).2 _ trace₂ .unresolvable b herror
      (Or.inr ⟨_, _, _, _, _, rfl⟩) (Or.inl rfl)

end Typeflow
