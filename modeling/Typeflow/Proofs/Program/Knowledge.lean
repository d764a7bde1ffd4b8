import Typeflow.Proofs.Checker.Facts
import Typeflow.Proofs.Program.Relations

/-!
What a program says about its names, without variables. The functions of the catalogue have their
signatures; an assignment passes on the type of its value, and a call with a known callee gives
types to the references among its arguments. The facts about the variables of a run say the same
about the names of its table, and they are consistent exactly when what is known about the names
is sound. New variables stand between a call and the one place that uses its result, so nothing
else can be said about them.
-/

namespace Typeflow

/-- What the sites of a program say about its names. -/
inductive Known (catalogue : Catalogue) (sites : List Site) : Identifier → Ty → Prop
  | builtin {name : Identifier} {signature : Signature} :
      (name, signature) ∈ catalogue.entries → Known catalogue sites name signature.toTy
  | reference {target name : Identifier} {ty : Ty} :
      .assignment target (.ref name) ∈ sites → Known catalogue sites name ty →
      Known catalogue sites target ty
  | returned {target callee : Identifier} {args : List Expr} {params : List Ty} {out : Ty} :
      .assignment target (.call callee args) ∈ sites →
      Known catalogue sites callee (.fn params out) → params.length = args.length →
      Known catalogue sites target out
  | argument {callee name : Identifier} {args : List Expr} {params : List Ty} {out param : Ty} :
      .call callee args ∈ sites → Known catalogue sites callee (.fn params out) →
      params.length = args.length → (.ref name, param) ∈ args.zip params →
      Known catalogue sites name param

/-- No name has two types, what is called is a function of as many parameters as there are
arguments, and a call that is an argument returns what the parameter asks for. -/
structure Sound (catalogue : Catalogue) (sites : List Site) : Prop where
  unique : ∀ name ty ty',
    Known catalogue sites name ty → Known catalogue sites name ty' → ty = ty'
  callable : ∀ callee args ty, .call callee args ∈ sites → Known catalogue sites callee ty →
    ∃ params out, ty = .fn params out ∧ params.length = args.length
  nested : ∀ callee args params out inner innerArgs param innerParams innerOut,
    .call callee args ∈ sites → Known catalogue sites callee (.fn params out) →
    (.call inner innerArgs, param) ∈ args.zip params →
    Known catalogue sites inner (.fn innerParams innerOut) → innerOut = param

/-- What is known about the value of an expression. -/
def KnownValue (catalogue : Catalogue) (sites : List Site) : Expr → Ty → Prop
  | .ref name, ty => Known catalogue sites name ty
  | .call callee args, ty =>
    ∃ params, Known catalogue sites callee (.fn params ty) ∧ params.length = args.length
  | .unsupported _, _ => False

section Monotone

variable {catalogue : Catalogue} {sites sites' : List Site}

theorem Known.mono (hsub : sites ⊆ sites') {name : Identifier} {ty : Ty}
    (h : Known catalogue sites name ty) : Known catalogue sites' name ty := by
  induction h with
  | builtin hentry => exact .builtin hentry
  | reference hsite _ ih => exact .reference (hsub hsite) ih
  | returned hsite _ hlength ih => exact .returned (hsub hsite) ih hlength
  | argument hsite _ hlength hpair ih => exact .argument (hsub hsite) ih hlength hpair

theorem Sound.anti (hsub : sites ⊆ sites') (h : Sound catalogue sites') :
    Sound catalogue sites := by
  refine ⟨?_, ?_, ?_⟩
  · intro name ty ty' hty hty'
    exact h.unique name ty ty' (hty.mono hsub) (hty'.mono hsub)
  · intro callee args ty hsite hty
    exact h.callable callee args ty (hsub hsite) (hty.mono hsub)
  · intro callee args params out inner innerArgs param innerParams innerOut hsite hty hpair hinner
    exact h.nested callee args params out inner innerArgs param innerParams innerOut (hsub hsite)
      (hty.mono hsub) hpair (hinner.mono hsub)

theorem known_of_assignment {target : Identifier} {value : Expr} {ty : Ty}
    (hsite : .assignment target value ∈ sites) (h : KnownValue catalogue sites value ty) :
    Known catalogue sites target ty := by
  cases value with
  | ref name => exact .reference hsite h
  | call callee args =>
    obtain ⟨params, hcallee, hlength⟩ := h
    exact .returned hsite hcallee hlength
  | unsupported form => exact h.elim

end Monotone

end Typeflow
