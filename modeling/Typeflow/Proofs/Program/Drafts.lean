import Typeflow.Program.Basic
import Typeflow.Proofs.Program.Sites
import Typeflow.Proofs.Returns

/-!
What a statement keeps of its draft. Names count up to their normal form. An expression shows its
draft at every depth, so nothing in the draft is passed over. A statement shows its draft too, but
for one field: an assignment may come with an initial value, and that is read by nobody.
-/

namespace Typeflow

namespace ExprDraft

mutual

def normal : ExprDraft → ExprDraft
  | ⟨call, args, ref⟩ => ⟨call.map Text.normalize, normals args, ref.map Text.normalize⟩

def normals : List ExprDraft → List ExprDraft
  | [] => []
  | draft :: rest => draft.normal :: normals rest

end

end ExprDraft

namespace Expr

mutual

def draft : Expr → ExprDraft
  | .ref name => ⟨none, [], some name.text⟩
  | .call callee args => ⟨some callee.text, drafts args, none⟩
  | .unsupported _ => ⟨none, [], none⟩

def drafts : List Expr → List ExprDraft
  | [] => []
  | expr :: rest => expr.draft :: drafts rest

end

end Expr

namespace ExprDraft

variable {draft draft' : ExprDraft} {drafts : List ExprDraft} {expr : Expr} {exprs : List Expr}

mutual

/-- The expression of an accepted draft shows that draft. -/
theorem normal_of_toExpr : (draft : ExprDraft) →
    Returns draft.toExpr fun expr => draft.normal = expr.draft ∧ expr.isSupported = true
  | ⟨some _, _, some _⟩ => Returns.error
  | ⟨some callee, args, none⟩ => by
    refine Returns.bind (normals_of_toExprs args) fun exprs hargs => Returns.ok ⟨?_, hargs.2⟩
    rw [normal, hargs.1]
    rfl
  | ⟨none, [], some _⟩ => Returns.ok ⟨rfl, rfl⟩
  | ⟨none, _ :: _, some _⟩ => Returns.error
  | ⟨none, _, none⟩ => Returns.error

theorem normals_of_toExprs : (drafts : List ExprDraft) →
    Returns (toExprs drafts) fun exprs =>
      normals drafts = Expr.drafts exprs ∧ Expr.areSupported exprs = true
  | [] => Returns.ok ⟨rfl, rfl⟩
  | draft :: rest => by
    refine Returns.bind draft.normal_of_toExpr fun expr hexpr => ?_
    refine Returns.bind (normals_of_toExprs rest) fun exprs hexprs => Returns.ok ⟨?_, ?_⟩
    · rw [normals, hexpr.1, hexprs.1]
      rfl
    · rw [Expr.areSupported, hexpr.2, hexprs.2]
      rfl

end

theorem toExprs_of_normals
    (h : ∀ expr ∈ exprs, expr.isSupported = true → ∀ draft : ExprDraft,
      draft.normal = expr.draft → draft.toExpr = .ok expr)
    (hsupported : Expr.areSupported exprs = true) (heq : normals drafts = Expr.drafts exprs) :
    toExprs drafts = .ok exprs := by
  induction exprs generalizing drafts with
  | nil =>
    cases drafts with
    | nil => rfl
    | cons draft rest => cases heq
  | cons expr exprs ih =>
    obtain ⟨hexpr, hexprs⟩ := List.forall_mem_cons.mp h
    cases drafts with
    | nil => cases heq
    | cons draft rest =>
      obtain ⟨hdraft, hrest⟩ := List.cons.inj heq
      rw [Expr.areSupported, Bool.and_eq_true] at hsupported
      rw [toExprs, hexpr hsupported.1 draft hdraft, ih hexprs hsupported.2 hrest]
      rfl

/-- A draft is accepted as every supported expression that shows it. -/
theorem toExpr_of_normal (hsupported : expr.isSupported = true) (h : draft.normal = expr.draft) :
    draft.toExpr = .ok expr := by
  induction expr using Expr.inductionOn generalizing draft with
  | ref name =>
    obtain ⟨call, args, ref⟩ := draft
    simp only [normal, Expr.draft, mk.injEq, Option.map_eq_none_iff, Option.map_eq_some_iff] at h
    obtain ⟨rfl, hargs, text, rfl, htext⟩ := h
    cases args with
    | nil =>
      obtain ⟨_⟩ := name
      subst htext
      rfl
    | cons arg args => cases hargs
  | call callee args ih =>
    obtain ⟨call, drafts, ref⟩ := draft
    simp only [normal, Expr.draft, mk.injEq, Option.map_eq_none_iff, Option.map_eq_some_iff] at h
    obtain ⟨⟨text, rfl, htext⟩, hargs, rfl⟩ := h
    have hexprs : toExprs drafts = .ok args :=
      toExprs_of_normals (fun arg harg hsupported draft => ih arg harg hsupported)
        hsupported hargs
    obtain ⟨_⟩ := callee
    subst htext
    rw [toExpr, hexprs]
    rfl
  | unsupported form => cases hsupported

end ExprDraft

def Statement.draft : Statement → StatementDraft
  | .declare ⟨name, init⟩ => ⟨some name.text, init.map Expr.draft, none, none⟩
  | .assign name value => ⟨none, none, some name.text, some value.draft⟩
  | .unknown | .missing => ⟨none, none, none, none⟩

namespace StatementDraft

variable {draft draft' : StatementDraft} {statement : Statement}

def normal (draft : StatementDraft) : StatementDraft where
  var := draft.var.map Text.normalize
  init := draft.init.map ExprDraft.normal
  assign := draft.assign.map Text.normalize
  value := draft.value.map ExprDraft.normal

/-- The fields that are read: an assignment has no use for an initial value. -/
def read : StatementDraft → StatementDraft
  | ⟨var, _, some target, value⟩ => ⟨var, none, some target, value⟩
  | draft => draft

/-- The statement of an accepted draft shows what is read of the draft. -/
theorem read_of_toStatement (draft : StatementDraft) : Returns draft.toStatement fun statement =>
    draft.read.normal = statement.draft ∧ statement.isKnown = true ∧
      statement.isSupported = true := by
  unfold toStatement
  split
  · exact Returns.error
  · exact Returns.error
  · exact Returns.ok ⟨rfl, rfl, rfl⟩
  · rename_i name init
    refine Returns.bind init.normal_of_toExpr fun expr hexpr => Returns.ok ⟨?_, rfl, hexpr.2⟩
    simp only [read, normal, Option.map_some, Option.map_none, hexpr.1]
    rfl
  · exact Returns.error
  · rename_i _ name value
    refine Returns.bind value.normal_of_toExpr fun expr hexpr => Returns.ok ⟨?_, rfl, hexpr.2⟩
    simp only [read, normal, Option.map_some, Option.map_none, hexpr.1]
    rfl
  · exact Returns.error

theorem toStatement_of_read (hknown : statement.isKnown = true)
    (hsupported : statement.isSupported = true) (h : draft.read.normal = statement.draft) :
    draft.toStatement = .ok statement := by
  obtain ⟨var, init, assign, value⟩ := draft
  -- The initial value stays in the draft only if there is no target, so that is decided first.
  match statement with
  | .declare ⟨⟨name⟩, shown⟩ =>
    cases assign with
    | some target => cases congrArg StatementDraft.assign h
    | none =>
      obtain ⟨hvar, hinit, -, hvalue⟩ := StatementDraft.mk.inj h
      obtain ⟨text, rfl, rfl⟩ := Option.map_eq_some_iff.mp hvar
      obtain rfl := Option.map_eq_none_iff.mp hvalue
      cases shown with
      | none =>
        obtain rfl := Option.map_eq_none_iff.mp hinit
        rfl
      | some expr =>
        obtain ⟨init, rfl, hshown⟩ := Option.map_eq_some_iff.mp hinit
        rw [toStatement, ExprDraft.toExpr_of_normal hsupported hshown]
        rfl
  | .assign ⟨name⟩ expr =>
    cases assign with
    | none => cases congrArg StatementDraft.assign h
    | some target =>
      obtain ⟨hvar, -, htarget, hvalue⟩ := StatementDraft.mk.inj h
      obtain rfl := Option.map_eq_none_iff.mp hvar
      obtain ⟨value, rfl, hshown⟩ := Option.map_eq_some_iff.mp hvalue
      cases htarget
      rw [toStatement, ExprDraft.toExpr_of_normal hsupported hshown]
      rfl
  | .unknown | .missing => cases hknown

theorem read_normal_eq_iff : draft'.read.normal = draft.read.normal ↔
    draft'.var.map Text.normalize = draft.var.map Text.normalize ∧
    draft'.assign.map Text.normalize = draft.assign.map Text.normalize ∧
    draft'.value.map ExprDraft.normal = draft.value.map ExprDraft.normal ∧
    (draft.assign = none →
      draft'.init.map ExprDraft.normal = draft.init.map ExprDraft.normal) := by
  obtain ⟨var, init, assign, value⟩ := draft
  obtain ⟨var', init', assign', value'⟩ := draft'
  cases assign with
  | none =>
    cases assign' with
    | none =>
      simp only [read, normal, mk.injEq, Option.map_none, true_and, forall_const]
      exact and_congr_right fun _ => and_comm
    | some target => simp [read, normal]
  | some target => cases assign' <;> simp [read, normal]

end StatementDraft

/-- Drafts that are accepted as the same statement agree in every field at every depth, up to the
normal form of names, except that assignments may come with any initial values. -/
theorem accepted_drafts_agree {draft draft' : StatementDraft} {statement : Statement}
    (h : draft.toStatement = .ok statement) :
    draft'.toStatement = .ok statement ↔
      draft'.var.map Text.normalize = draft.var.map Text.normalize ∧
      draft'.assign.map Text.normalize = draft.assign.map Text.normalize ∧
      draft'.value.map ExprDraft.normal = draft.value.map ExprDraft.normal ∧
      (draft.assign = none →
        draft'.init.map ExprDraft.normal = draft.init.map ExprDraft.normal) := by
  obtain ⟨hread, hknown, hsupported⟩ := draft.read_of_toStatement statement h
  rw [← StatementDraft.read_normal_eq_iff]
  constructor
  · intro h'
    exact (draft'.read_of_toStatement statement h').1.trans hread.symm
  · intro h'
    exact StatementDraft.toStatement_of_read hknown hsupported (h'.trans hread)

/-- `var x = f(g(é))` is one statement in either spelling of `é`. -/
theorem accepted_drafts_agree_of_nested_name :
    let draft (name : Text) : StatementDraft := ⟨some [120],
      some ⟨some [102], [⟨some [103], [⟨none, [], some name⟩], none⟩], none⟩, none, none⟩
    ∃ statement, (draft [0xc3, 0xa9]).toStatement = .ok statement ∧
      (draft [0x65, 0xcc, 0x81]).toStatement = .ok statement := by
  intro draft
  have hname : Text.normalize [0x65, 0xcc, 0x81] = Text.normalize [0xc3, 0xa9] := by
    decide +kernel
  have haccepted : (draft [0xc3, 0xa9]).toStatement = .ok (.declare ⟨.ofText [120],
      some (.call (.ofText [102]) [.call (.ofText [103]) [.ref (.ofText [0xc3, 0xa9])]])⟩) := rfl
  refine ⟨_, haccepted, (accepted_drafts_agree haccepted).mpr ⟨rfl, rfl, rfl, fun _ => ?_⟩⟩
  simp only [draft, Option.map_some, ExprDraft.normal, ExprDraft.normals, hname]

/-- Nothing in the statement `x = y` tells whether its draft came with an initial value. -/
theorem initial_value_of_assignment_is_dropped :
    let plain : StatementDraft := ⟨none, none, some [120], some ⟨none, [], some [121]⟩⟩
    let draft : StatementDraft := { plain with init := some ⟨none, [], some [122]⟩ }
    ∃ statement, plain.toStatement = .ok statement ∧ draft.toStatement = .ok statement ∧
      plain.normal ≠ draft.normal := by
  refine ⟨_, rfl, rfl, ?_⟩
  intro h
  cases congrArg StatementDraft.init h

end Typeflow
