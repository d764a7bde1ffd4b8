import Typeflow.Program.Run
import Typeflow.Proofs.Program.Cycles
import Typeflow.Proofs.Program.Reading
import Typeflow.Proofs.Rendering

/-!
Verification compares types, although it compares printed forms. All types that a program meets
are legible: those that are read have names in normal form, and inference only takes signatures
apart. The printed form of a legible type determines it, so an expectation is met exactly if the
symbol has the expected type.
-/

namespace Typeflow

open Text

/-- The types of a program can be told apart by their printed forms. -/
structure Program.Legible (program : Program) : Prop where
  builtins : ∀ entry ∈ program.builtins.entries, entry.2.toTy.Legible
  expect : ∀ entry ∈ program.expect.entries, entry.2.Legible

theorem Catalogue.legible_reference :
    ∀ entry ∈ reference.entries, entry.2.toTy.Legible := by
  intro entry hmem
  have hnamed : ∀ s ∈ ["int32", "uint64"], (Signature.mk [] (Ty.named s)).toTy.Legible := by
    intro s hs
    refine Ty.legible_fn.mpr ⟨by simp, Ty.legible_name.mpr (Identifier.legible_ofString ?_ ?_)⟩
    · revert s
      decide +kernel
    · revert s
      decide +kernel
  rcases List.mem_cons.mp (Dictionary.mem_of_mem_ofList hmem) with rfl | hmem
  · exact hnamed "int32" (by simp)
  · rw [List.mem_singleton.mp hmem]
    exact hnamed "uint64" (by simp)

namespace Draft

theorem toExpect_legible (draft : Draft) :
    Returns draft.toExpect fun expect => ∀ entry ∈ expect.entries, entry.2.Legible := by
  unfold toExpect
  refine Returns.bind (Returns.mapM fun entry _ => ?_)
    fun (types : List (Text × Ty)) (htypes : ∀ entry ∈ types, entry.2.Legible) =>
      Returns.ok fun entry hmem => htypes entry (Dictionary.mem_of_mem_ofList hmem)
  exact Returns.bind (TypeText.parse_legible entry.2).mapError fun _ h => Returns.ok h

theorem toProgram_legible (draft : Draft) : Returns draft.toProgram Program.Legible := by
  have hsignature : ∀ draft : SignatureDraft,
      Returns draft.toSignature fun signature => signature.toTy.Legible := fun draft =>
    (draft.toSignature_returns TypeText.parse_legible Ty.legible_fn.mpr).mono fun _ h => h.1
  refine Returns.bind (toCatalogue_returns _ Catalogue.legible_reference hsignature draft)
    fun builtins hbuiltins => ?_
  refine Returns.bind Returns.any fun statements _ => ?_
  exact Returns.bind draft.toExpect_legible fun expect hexpect => Returns.ok ⟨hbuiltins, hexpect⟩

end Draft

theorem Program.parse_draft (text : Text) :
    Returns (parse text) fun program => ∃ draft : Draft, draft.toProgram = .ok program :=
  Returns.bind Returns.any fun draft _ => fun _ hprogram => ⟨draft, hprogram⟩

theorem Solution.Describes.legible {solution : Solution} {checker : Checker}
    (h : solution.Describes checker)
    (hsignatures : ∀ name signature, .function name signature ∈ checker.table.symbols →
      signature.toTy.Legible)
    {symbol : Symbol} {ty : Ty} (hty : solution.typeOf symbol = .ok ty) : ty.Legible := by
  obtain ⟨known, hknown, htypes⟩ := h.types_eq
  unfold Solution.typeOf at hty
  split at hty
  · rename_i found ty' hfind
    cases hty
    have hmem := List.mem_of_find?_eq_some hfind
    rw [htypes] at hmem
    obtain ⟨symbol', -, heq⟩ := List.mem_map.mp hmem
    obtain ⟨-, rfl⟩ := Prod.mk.inj heq
    cases hentry : known (checker.table.var symbol'.name) with
    | none => exact Ty.legible_unresolvable
    | some ty => exact ((hknown _ _).mp hentry).hereditary Ty.legible_fn.mp hsignatures
  · cases hty

theorem Program.run_legible {program : Program} (hconcrete : program.builtins.Concrete)
    (hlegible : program.Legible) (trace : Trace) :
    Ends program.run trace
      (fun report _ => ∀ symbol ty, report.solution.typeOf symbol = .ok ty → ty.Legible)
      fun _ _ => True := by
  refine Ends.bind (Ends.trivial.record.mono (fun _ _ h => h.1) fun _ _ _ => trivial)
    fun table _ htable => ?_
  refine Ends.bind (Ends.trivial.record.mono (fun _ _ h => h.1) fun _ _ _ => trivial)
    fun solution _ hinfer => Ends.pure ?_
  obtain ⟨checker, hsolves⟩ := solves_of_infer hconcrete htable hinfer
  intro symbol ty hty
  refine hsolves.describes.legible (fun name signature hmem => ?_) hty
  exact hlegible.builtins _ ((hsolves.lowered.builtins name signature).mp hmem)

theorem sameRendering_iff {ty other : Ty} (h : ty.Legible) (hother : other.Legible) :
    sameRendering ty other = true ↔ ty = other := by
  unfold sameRendering
  rw [decide_eq_true_iff]
  exact ⟨Ty.eq_of_render_eq h hother, fun heq => by rw [heq]⟩

namespace Solution

variable {solution : Solution} {expect : List (Text × Ty)}

theorem lookup?_eq_some_iff {name : Identifier} {ty : Ty} : solution.lookup? name = some ty ↔
    ∃ symbol, solution.table.lookup? name = some symbol ∧ solution.typeOf symbol = .ok ty := by
  unfold lookup?
  cases solution.table.lookup? name with
  | none => simp
  | some symbol => cases hty : solution.typeOf symbol <;> simp [Except.toOption, hty]

/-- A check succeeds exactly if every name has a symbol with the expected type, provided that the
types can be told apart by their printed forms. -/
theorem check_eq_ok_iff (hexpect : ∀ entry ∈ expect, entry.2.Legible)
    (htypes : ∀ symbol ty, solution.typeOf symbol = .ok ty → ty.Legible) :
    solution.check expect = .ok () ↔ ∀ entry ∈ expect,
      solution.lookup? (.ofText entry.1) = some entry.2 := by
  induction expect with
  | nil => simp [check]
  | cons entry rest ih =>
    obtain ⟨name, expected⟩ := entry
    obtain ⟨hentry, hrest⟩ := List.forall_mem_cons.mp hexpect
    rw [check, List.forall_mem_cons]
    cases hlookup : solution.lookup? (.ofText name) with
    | none => simp
    | some found =>
      obtain ⟨symbol, -, hfound⟩ := lookup?_eq_some_iff.mp hlookup
      have hsame : sameRendering expected found = true ↔ expected = found :=
        sameRendering_iff hentry (htypes symbol found hfound)
      by_cases heq : expected = found
      · simp only
        rw [if_pos (hsame.mpr heq), ih hrest, heq, eq_self, true_and]
      · simp [mt hsame.mp heq, Ne.symm heq]

end Solution

/-- Verification of a program that expects no error finds nothing exactly if the run succeeds and
so does the check of what it reports. -/
theorem Program.verify_eq_ok_iff {program : Program} {trace trace' : Trace}
    (herror : program.error = []) :
    program.verify trace = .ok (.ok ()) trace' ↔ ∃ report, program.run trace = .ok report trace' ∧
      report.solution.check (program.expect.sorted Text.compare) = .ok () := by
  cases hrun : program.run trace with
  | ok report after =>
    have hverify : program.verify trace =
        .ok (report.solution.check (program.expect.sorted Text.compare)) after := by
      simp only [verify, bind, EStateM.bind, attempt, hrun, pure, EStateM.pure, compare, herror,
        List.isEmpty_nil, if_true]
    simp [hverify, and_comm]
  | error failure after =>
    cases failure with
    | error error =>
      have hverify : program.verify trace = .ok (.error (.unexpectedError error)) after := by
        simp only [verify, bind, EStateM.bind, attempt, hrun, pure, EStateM.pure, compare, herror,
          List.isEmpty_nil, if_true]
      simp [hverify]
    | fault fault =>
      have hverify : program.verify trace = .error (.fault fault) after := by
        simp only [verify, bind, EStateM.bind, attempt, hrun]
      simp [hverify]

/-- Verification is a comparison of types. For a program that has been read, from a draft or from
a text, and expects no error, it finds no discrepancy exactly if the run succeeds and every name
of an expected type has a symbol whose type is the expected one. -/
theorem verify_compares_types {program : Program} {trace trace' : Trace}
    (hprogram : (∃ draft : Draft, draft.toProgram = .ok program) ∨
      ∃ text, Program.parse text = .ok program)
    (herror : program.error = []) :
    program.verify trace = .ok (.ok ()) trace' ↔
      ∃ report, program.run trace = .ok report trace' ∧
        ∀ entry ∈ program.expect.entries, ∃ symbol,
          report.solution.table.lookup? (.ofText entry.1) = some symbol ∧
          report.solution.typeOf symbol = .ok entry.2 := by
  obtain ⟨draft, hdraft⟩ : ∃ draft : Draft, draft.toProgram = .ok program :=
    hprogram.elim id fun ⟨text, htext⟩ => Program.parse_draft text program htext
  have husable := draft.toProgram_usable program hdraft
  have hlegible := draft.toProgram_legible program hdraft
  have hrun := Program.run_legible husable.concrete hlegible trace
  rw [Program.verify_eq_ok_iff herror]
  refine exists_congr fun report => and_congr_right fun hreport => ?_
  have hsorted : ∀ entry, entry ∈ program.expect.sorted Text.compare ↔
      entry ∈ program.expect.entries :=
    fun entry => (program.expect.sorted_perm Text.compare).mem_iff
  rw [Solution.check_eq_ok_iff (fun entry hmem => hlegible.expect entry ((hsorted entry).mp hmem))
    (hrun.good_of_eq hreport)]
  simp only [Solution.lookup?_eq_some_iff, hsorted]

/-- A function type that is written in another way than it is printed, and a symbol about which
nothing becomes known. -/
theorem verify_compares_types_of_function_type :
    ∃ program, Program.parse (utf8 ("builtins: \x7bf: \x7breturns: () -> i\x7d\x7d\n" ++
        "program: [\x7bvar: z\x7d]\nexpect: \x7bf: ()->()->i, z: <unresolvable>\x7d")) =
        .ok program ∧ program.error = [] ∧
      program.expect.entries =
        [([102], .fn [] (.fn [] (.name ⟨[105]⟩))), ([122], .unresolvable)] ∧
      ∃ trace, program.verify Trace.off = .ok (.ok ()) trace ∧
        ∃ report, program.run Trace.off = .ok report trace ∧
          (∃ symbol, report.solution.table.lookup? (.ofText [102]) = some symbol ∧
            report.solution.typeOf symbol = .ok (.fn [] (.fn [] (.name ⟨[105]⟩)))) ∧
          ∃ symbol, report.solution.table.lookup? (.ofText [122]) = some symbol ∧
            report.solution.typeOf symbol = .ok .unresolvable := by
  have hevaluated : ((Program.parse (utf8 (
      "builtins: \x7bf: \x7breturns: () -> i\x7d\x7d\n" ++
      "program: [\x7bvar: z\x7d]\nexpect: \x7bf: ()->()->i, z: <unresolvable>\x7d"))).toOption.any
        fun program => decide (program.error = [] ∧ program.expect.entries =
          [([102], .fn [] (.fn [] (.name ⟨[105]⟩))), ([122], .unresolvable)] ∧
          Ends program.verify Trace.off (fun outcome _ => outcome.isOk = true)
            fun _ _ => False)) = true := by decide +kernel
  have hok : ∀ {x : Except ProgramError Program} {program}, x.toOption = some program →
      x = .ok program := by
    intro x program h
    cases x with
    | error error => cases h
    | ok found =>
      obtain rfl := Option.some.inj h
      rfl
  obtain ⟨program, hparsed, hchecked⟩ := (Option.any_eq_true _ _).mp hevaluated
  obtain ⟨herror, hexpect, hends⟩ := of_decide_eq_true hchecked
  obtain ⟨outcome, trace, hverify, houtcome⟩ := hends.exists_ok
  cases outcome with
  | error discrepancy => cases houtcome
  | ok _ =>
    obtain ⟨report, hrun, hentries⟩ :=
      (verify_compares_types (Or.inr ⟨_, hok hparsed⟩) herror).mp hverify
    rw [hexpect] at hentries
    obtain ⟨hfunction, hunknown, -⟩ := by simpa only [List.forall_mem_cons] using hentries
    exact ⟨program, hok hparsed, herror, hexpect, trace, hverify, report, hrun, hfunction,
      hunknown⟩

end Typeflow
