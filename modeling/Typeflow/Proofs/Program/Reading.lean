import Typeflow.Program.Basic
import Typeflow.Proofs.Inference
import Typeflow.Proofs.TypeText.Names

/-!
What is read can be relied on. A draft that is accepted has signatures of closed types, without
the mark of an undetermined type, and its statements are declarations and assignments of
references and calls.
-/

namespace Typeflow

section Signatures

variable {P : Ty → Prop} (holds : Signature → Prop)

theorem parseTypes_returns (hparse : ∀ source, Returns (TypeText.parse source) P)
    (sources : List Text) : Returns (parseTypes sources) fun types => ∀ ty ∈ types, P ty :=
  Returns.mapM fun source _ => (hparse source).mapError

/-- What holds of all types that are read holds of signatures that are read, if it passes to
function types. -/
theorem SignatureDraft.toSignature_returns (hparse : ∀ source, Returns (TypeText.parse source) P)
    (hfn : ∀ {params result}, (∀ p ∈ params, P p) ∧ P result → P (.fn params result))
    (draft : SignatureDraft) : Returns draft.toSignature fun signature =>
      P signature.toTy ∧ signature.toTy.mentionsUnresolvable = false := by
  unfold toSignature
  split
  · exact Returns.error
  · refine Returns.bind (parseTypes_returns hparse draft.params) fun params hparams => ?_
    refine Returns.bind (hparse draft.returns).mapError fun result hresult => ?_
    dsimp only
    split
    · exact Returns.error
    · rename_i hconcrete
      exact Returns.ok ⟨hfn ⟨hparams, hresult⟩, Bool.eq_false_iff.mpr hconcrete⟩

theorem SignatureDraft.toSignature_ground (draft : SignatureDraft) :
    Returns draft.toSignature fun signature => signature.toTy.Ground :=
  draft.toSignature_returns TypeText.parse_closed Ty.closed_fn.mpr

theorem Catalogue.concrete_reference : Catalogue.reference.Concrete := by
  intro entry hmem
  have hall : ∀ entry ∈ [(Identifier.ofString "foo", (⟨[], Ty.named "int32"⟩ : Signature)),
      (Identifier.ofString "bar", ⟨[], Ty.named "uint64"⟩)], entry.2.toTy.Ground := by decide
  exact hall entry (Dictionary.mem_of_mem_ofList hmem)

/-- What holds of all signatures that are read, and of the usual ones, holds of a catalogue. -/
theorem Draft.toCatalogue_returns
    (hreference : ∀ entry ∈ Catalogue.reference.entries, holds entry.2)
    (hread : ∀ draft : SignatureDraft, Returns draft.toSignature holds) (draft : Draft) :
    Returns draft.toCatalogue fun catalogue => ∀ entry ∈ catalogue.entries, holds entry.2 := by
  unfold toCatalogue
  split
  · exact Returns.ok hreference
  · refine Returns.bind (Returns.mapM fun draft _ => ?_)
      fun entries (hentries : ∀ entry ∈ entries, holds entry.2) =>
        Returns.ok fun entry hmem => hentries entry (Dictionary.mem_of_mem_ofList hmem)
    exact Returns.bind (hread draft.2).mapError fun _ h => Returns.ok h

theorem Draft.toCatalogue_concrete (draft : Draft) :
    Returns draft.toCatalogue Catalogue.Concrete :=
  toCatalogue_returns (fun signature => signature.toTy.Ground) Catalogue.concrete_reference
    SignatureDraft.toSignature_ground draft

end Signatures

mutual

theorem ExprDraft.toExpr_supported : (draft : ExprDraft) →
    Returns draft.toExpr fun expr => expr.isSupported = true
  | ⟨some _, _, some _⟩ => Returns.error
  | ⟨some _, args, none⟩ =>
    Returns.bind (ExprDraft.toExprs_supported args) fun _ hargs => Returns.ok hargs
  | ⟨none, args, some name⟩ => by
    unfold ExprDraft.toExpr
    split
    · exact Returns.ok rfl
    · exact Returns.error
  | ⟨none, _, none⟩ => Returns.error

theorem ExprDraft.toExprs_supported : (drafts : List ExprDraft) →
    Returns (ExprDraft.toExprs drafts) fun exprs => Expr.areSupported exprs = true
  | [] => Returns.ok rfl
  | draft :: rest =>
    Returns.bind draft.toExpr_supported fun expr hexpr =>
      Returns.bind (ExprDraft.toExprs_supported rest) fun exprs hexprs =>
        Returns.ok (by simp [Expr.areSupported, hexpr, hexprs])

end

theorem StatementDraft.toStatement_supported (draft : StatementDraft) :
    Returns draft.toStatement fun statement =>
      statement.isKnown = true ∧ statement.isSupported = true := by
  unfold toStatement
  split
  · exact Returns.error
  · exact Returns.error
  · exact Returns.ok ⟨rfl, rfl⟩
  · rename_i name init
    exact Returns.bind init.toExpr_supported fun _ h => Returns.ok ⟨rfl, h⟩
  · exact Returns.error
  · rename_i _ name value
    exact Returns.bind value.toExpr_supported fun _ h => Returns.ok ⟨rfl, h⟩
  · exact Returns.error

/-- A program that can be run: its signatures are concrete, and its statements are declarations
and assignments of references and calls. -/
structure Program.Usable (program : Program) : Prop where
  concrete : program.builtins.Concrete
  known : ∀ statement ∈ program.statements, statement.isKnown = true
  supported : ∀ statement ∈ program.statements, statement.isSupported = true

theorem Draft.toProgram_usable (draft : Draft) : Returns draft.toProgram Program.Usable := by
  have hstatements : Returns draft.toStatements fun stmts => ∀ statement ∈ stmts,
      statement.isKnown = true ∧ statement.isSupported = true :=
    Returns.mapM fun entry _ => entry.1.toStatement_supported.mapError
  refine Returns.bind draft.toCatalogue_concrete fun builtins hbuiltins => ?_
  refine Returns.bind hstatements fun statements hstatements => ?_
  refine Returns.bind Returns.any fun expect _ => Returns.ok ?_
  exact ⟨hbuiltins, fun s hs => (hstatements s hs).1, fun s hs => (hstatements s hs).2⟩

end Typeflow
