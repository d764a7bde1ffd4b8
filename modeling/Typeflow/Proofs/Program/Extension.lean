import Typeflow.Proofs.Program.Order
import Typeflow.Proofs.Tracing

/-!
What a part of a program says, the whole program says as well. If the whole is accepted, so is
every part that declares the names it uses, and a type that the part gives a name is the type that
the whole gives it. More statements can only give types to names that had none.
-/

namespace Typeflow

variable {catalogue : Catalogue} {part whole : List Statement} {trace trace' : Trace}

/-- The symbols of a program before they are put into a table. -/
def programSymbols (stmts : List Statement) (catalogue : Catalogue) : List Symbol :=
  declaredSymbols (stmts.filterMap Statement.declared?) catalogue

theorem programSymbols_sublist (catalogue : Catalogue) (hsub : part.Sublist whole) :
    (programSymbols part catalogue).Sublist (programSymbols whole catalogue) := by
  unfold programSymbols declaredSymbols
  exact ((hsub.filterMap _).map _).append_right _

theorem declaredNames_sublist (catalogue : Catalogue) (hsub : part.Sublist whole) :
    (declaredNames part catalogue).Sublist (declaredNames whole catalogue) :=
  (programSymbols_sublist catalogue hsub).map _

theorem sites_subset (hsub : part.Sublist whole) :
    part.flatMap Statement.sites ⊆ whole.flatMap Statement.sites := by
  intro site hsite
  obtain ⟨statement, hstatement, hsite⟩ := List.mem_flatMap.mp hsite
  exact List.mem_flatMap.mpr ⟨statement, hsub.subset hstatement, hsite⟩

theorem Acceptable.of_sublist (h : Acceptable catalogue whole) (hsub : part.Sublist whole)
    (hnames : ∀ statement ∈ part, ∀ name ∈ statement.names,
      name ∈ declaredNames part catalogue) : Acceptable catalogue part where
  nodup := h.nodup.sublist (declaredNames_sublist catalogue hsub)
  supported := fun statement hmem => h.supported statement (hsub.subset hmem)
  declared := hnames
  sound := h.sound.anti (sites_subset hsub)

/-- Every name of the part has a type in both solutions, and the whole agrees with what the part
knows. -/
theorem Solution.Answers.of_sublist {solution solution' : Solution} (hsub : part.Sublist whole)
    (h : solution.Answers catalogue whole) (h' : solution'.Answers catalogue part)
    {name : Identifier} (hname : name ∈ declaredNames part catalogue) :
    ∃ ty ty', solution.lookup? name = some ty ∧ solution'.lookup? name = some ty' ∧
      (ty' ≠ .unresolvable → ty = ty') := by
  have hname' := (declaredNames_sublist catalogue hsub).subset hname
  by_cases hknown' : ∃ ty', Known catalogue (part.flatMap Statement.sites) name ty'
  · obtain ⟨ty', hty'⟩ := hknown'
    have hty := hty'.mono (sites_subset hsub)
    exact ⟨ty', ty', (h.lookup_iff name ty').mpr ⟨hname', Or.inl hty⟩,
      (h'.lookup_iff name ty').mpr ⟨hname, Or.inl hty'⟩, fun _ => rfl⟩
  · have hnone : ∀ ty', ¬ Known catalogue (part.flatMap Statement.sites) name ty' :=
      fun ty' hty' => hknown' ⟨ty', hty'⟩
    have hlookup' := (h'.lookup_iff name .unresolvable).mpr ⟨hname, Or.inr ⟨rfl, hnone⟩⟩
    by_cases hknown : ∃ ty, Known catalogue (whole.flatMap Statement.sites) name ty
    · obtain ⟨ty, hty⟩ := hknown
      exact ⟨ty, .unresolvable, (h.lookup_iff name ty).mpr ⟨hname', Or.inl hty⟩, hlookup',
        fun hne => (hne rfl).elim⟩
    · exact ⟨.unresolvable, .unresolvable, (h.lookup_iff name .unresolvable).mpr
        ⟨hname', Or.inr ⟨rfl, fun ty hty => hknown ⟨ty, hty⟩⟩⟩, hlookup', fun _ => rfl⟩

/-- The solution of a program is about the symbols of the program. -/
structure Solution.Covers (solution : Solution) (catalogue : Catalogue)
    (stmts : List Statement) : Prop where
  symbols_eq : solution.table.symbols = programSymbols stmts catalogue

theorem inferProgram_covers {stmts : List Statement} (hconcrete : catalogue.Concrete)
    (hknown : ∀ statement ∈ stmts, statement.isKnown = true) (htrace : trace.Accepting) :
    Ends (resolveSymbols stmts catalogue >>= infer stmts) trace
      (fun solution _ => solution.Covers catalogue stmts) fun _ _ => True := by
  refine Ends.bind ((resolveSymbols_accepting (declarations_eq hknown) htrace).mono
    (fun _ _ h => h) fun _ _ _ => trivial) ?_
  intro table trace' h
  obtain ⟨hsymbols, htrace'⟩ := h
  have hdeclared := SymbolTable.symbols_of_ofSymbols hsymbols
  refine (infer_ends (signatures_ground hconcrete hdeclared) hknown htrace').mono ?_
    fun _ _ _ => trivial
  intro solution _ h
  obtain ⟨checker, hgenerated, _, hdescribes⟩ := h
  have htable : solution.table = table := hdescribes.table_eq.trans hgenerated.table_eq
  refine ⟨?_⟩
  rw [htable]
  exact hdeclared

theorem Solution.Covers.typeOf_eq {solution : Solution} {stmts : List Statement}
    (h : solution.Covers catalogue stmts) {symbol : Symbol} {ty : Ty}
    (hmem : symbol ∈ programSymbols stmts catalogue)
    (hlookup : solution.lookup? symbol.name = some ty) : solution.typeOf symbol = .ok ty := by
  rw [← h.symbols_eq] at hmem
  unfold Solution.lookup? at hlookup
  rw [SymbolTable.lookup?_eq_some_iff.mpr ⟨hmem, rfl⟩] at hlookup
  cases htype : solution.typeOf symbol with
  | error fault =>
    simp only [htype, Except.toOption] at hlookup
    cases hlookup
  | ok found =>
    simp only [htype, Except.toOption] at hlookup
    rw [Option.some.inj hlookup]

theorem inferProgram_known (stmts : List Statement) (catalogue : Catalogue) (trace : Trace) :
    Ends (resolveSymbols stmts catalogue >>= infer stmts) trace
      (fun _ _ => ∀ statement ∈ stmts, statement.isKnown = true) fun _ _ => True :=
  Ends.bind Ends.trivial fun table trace' _ => infer_known stmts table trace'

/-- Adding statements never changes what is already known. If a program is accepted, so is every
part of it whose names are declared in the part or in the catalogue; every symbol of the part has
a type in both, and a symbol that the part resolves has the same type in the whole program. -/
theorem added_statements_keep_types {solution : Solution} {after : Trace}
    (hconcrete : catalogue.Concrete) (hsub : part.Sublist whole)
    (hnames : ∀ statement ∈ part, ∀ name ∈ statement.names, name ∈ declaredNames part catalogue)
    (hwhole : (resolveSymbols whole catalogue >>= infer whole) trace = .ok solution after)
    (htrace : trace'.Accepting) :
    ∃ solution' after', (resolveSymbols part catalogue >>= infer part) trace' =
        .ok solution' after' ∧
      ∀ symbol ∈ solution'.table.symbols,
        ∃ ty ty', solution.typeOf symbol = .ok ty ∧ solution'.typeOf symbol = .ok ty' ∧
          (ty' ≠ .unresolvable → ty = ty') := by
  have hconcluded : (resolveSymbols whole catalogue >>= infer whole) trace =
      concluded (.ok solution) after := hwhole
  have hoff := (inferProgram_scripted whole catalogue Trace.off).off hconcluded (by simp)
  have hknown := (inferProgram_known whole catalogue trace).good_of_eq hwhole
  have hknown' : ∀ statement ∈ part, statement.isKnown = true :=
    fun statement hmem => hknown statement (hsub.subset hmem)
  obtain ⟨hacceptable, hanswers⟩ :=
    (inferProgram_ends hconcrete hknown Trace.off_accepting).good_of_eq hoff
  have hcovers := (inferProgram_covers hconcrete hknown Trace.off_accepting).good_of_eq hoff
  have hpart := inferProgram_ends hconcrete hknown' htrace
  cases hresult : (resolveSymbols part catalogue >>= infer part) trace' with
  | ok solution' after' =>
    have hanswers' := (hpart.good_of_eq hresult).2
    have hcovers' := (inferProgram_covers hconcrete hknown' htrace).good_of_eq hresult
    refine ⟨solution', after', rfl, fun symbol hmem => ?_⟩
    rw [hcovers'.symbols_eq] at hmem
    obtain ⟨ty, ty', hty, hty', hsame⟩ :=
      hanswers.of_sublist hsub hanswers' (List.mem_map_of_mem hmem)
    exact ⟨ty, ty', hcovers.typeOf_eq ((programSymbols_sublist catalogue hsub).subset hmem) hty,
      hcovers'.typeOf_eq hmem hty', hsame⟩
  | error failure after' =>
    exact absurd (hacceptable.of_sublist hsub hnames) (hpart.bad_of_eq hresult).2

/-- In `var x; var y; y = z; var z = f(x);` all variables have a type. Without the assignment
nothing is known about `y`, and the other types stay. -/
theorem added_statements_keep_types_of_assignment :
    let f : Identifier := ⟨[102]⟩
    let b : Ty := .name ⟨[98]⟩
    let i : Ty := .name ⟨[105]⟩
    let x : Declaration := ⟨⟨[120]⟩, none⟩
    let y : Declaration := ⟨⟨[121]⟩, none⟩
    let z : Declaration := ⟨⟨[122]⟩, some (.call f [.ref x.name])⟩
    let catalogue := Catalogue.empty.define f ⟨[i], b⟩
    let part : List Statement := [.declare x, .declare y, .declare z]
    let whole : List Statement :=
      [.declare x, .declare y, .assign y.name (.ref z.name), .declare z]
    catalogue.Concrete ∧ part.Sublist whole ∧
      (∀ statement ∈ part, ∀ name ∈ statement.names, name ∈ declaredNames part catalogue) ∧
      ∃ solution solution' after after',
        (resolveSymbols whole catalogue >>= infer whole) Trace.off = .ok solution after ∧
        (resolveSymbols part catalogue >>= infer part) Trace.off = .ok solution' after' ∧
        (solution.typeOf (.variable x) = .ok i ∧ solution.typeOf (.variable y) = .ok b ∧
          solution.typeOf (.variable z) = .ok b) ∧
        (solution'.typeOf (.variable x) = .ok i ∧
          solution'.typeOf (.variable y) = .ok .unresolvable ∧
          solution'.typeOf (.variable z) = .ok b) ∧
        ∀ symbol ∈ solution'.table.symbols,
          ∃ ty ty', solution.typeOf symbol = .ok ty ∧ solution'.typeOf symbol = .ok ty' ∧
            (ty' ≠ .unresolvable → ty = ty') := by
  intro f b i x y z catalogue part whole
  have hconcrete : catalogue.Concrete := by decide
  have hsub : part.Sublist whole := by decide
  have hnames : ∀ statement ∈ part, ∀ name ∈ statement.names,
      name ∈ declaredNames part catalogue := by decide
  obtain ⟨solution, after, hwhole, htypes⟩ : ∃ solution after,
      (resolveSymbols whole catalogue >>= infer whole) Trace.off = .ok solution after ∧
      solution.typeOf (.variable x) = .ok i ∧ solution.typeOf (.variable y) = .ok b ∧
      solution.typeOf (.variable z) = .ok b := Ends.exists_ok (by decide +kernel)
  obtain ⟨found, after', hfound, htypes'⟩ : ∃ solution after,
      (resolveSymbols part catalogue >>= infer part) Trace.off = .ok solution after ∧
      solution.typeOf (.variable x) = .ok i ∧
      solution.typeOf (.variable y) = .ok .unresolvable ∧
      solution.typeOf (.variable z) = .ok b := Ends.exists_ok (by decide +kernel)
  obtain ⟨solution', after'', hpart, hkept⟩ :=
    added_statements_keep_types hconcrete hsub hnames hwhole Trace.off_accepting
  rw [hfound] at hpart
  cases hpart
  exact ⟨hconcrete, hsub, hnames, solution, found, after, after', hwhole, hfound, htypes, htypes',
    hkept⟩

end Typeflow
