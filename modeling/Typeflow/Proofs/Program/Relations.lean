import Mathlib.Data.List.Forall2
import Typeflow.Proofs.Program.Sites
import Typeflow.Proofs.SymbolTable

/-!
The relations of a program. Every site gives one relation, in order. The value of a reference is
the variable of its name; the value of a call is a new variable, and the new variables are taken
in the order of the calls. A new variable is the result of one call only, and it is used once: as
the argument of another call or as the value of an assignment.
-/

namespace Typeflow

def Statement.calls (statement : Statement) : List Site :=
  match statement.assignment? with
  | some (_, value) => value.calls
  | none => []

/-- `count` variables from the one with index `first` on. -/
def newVars (first count : Nat) : List TypeVar :=
  (List.range' first count).map fun (index : Nat) => ⟨(index : Int)⟩

namespace SymbolTable

/-- The variable of the value of an expression, where the new variables begin with `next`. -/
def valueVar (table : SymbolTable) (next : Nat) : Expr → TypeVar
  | .ref name => table.var name
  | .call _ args => ⟨((next + (Expr.callsList args).length : Nat) : Int)⟩
  | .unsupported _ => ⟨(next : Int)⟩

def valueVars (table : SymbolTable) : Nat → List Expr → List TypeVar
  | _, [] => []
  | next, expr :: rest =>
    table.valueVar next expr :: table.valueVars (next + expr.calls.length) rest

mutual

/-- The relations of the calls in an expression. -/
def callRelations (table : SymbolTable) (next : Nat) : Expr → List Relation
  | .ref _ => []
  | .call callee args =>
    table.callRelationsList next args ++
      [.applies (table.var callee) (table.valueVars next args)
        ⟨((next + (Expr.callsList args).length : Nat) : Int)⟩]
  | .unsupported _ => []

def callRelationsList (table : SymbolTable) (next : Nat) : List Expr → List Relation
  | [] => []
  | expr :: rest =>
    table.callRelations next expr ++ table.callRelationsList (next + expr.calls.length) rest

end

def statementRelations (table : SymbolTable) (next : Nat) (statement : Statement) :
    List Relation :=
  match statement.assignment? with
  | some (target, value) =>
    table.callRelations next value ++
      [.equates (table.var target) (table.valueVar next value) (table.symbolOf target)
        (table.symbolOf value.head) statement]
  | none => []

/-- The relations of statements in order. -/
def relationsOf (table : SymbolTable) : Nat → List Statement → List Relation
  | _, [] => []
  | next, statement :: rest =>
    table.statementRelations next statement ++
      table.relationsOf (next + statement.calls.length) rest

variable {table : SymbolTable} {next : Nat}

theorem length_valueVars (args : List Expr) :
    (table.valueVars next args).length = args.length := by
  induction args generalizing next with
  | nil => rfl
  | cons first rest ih => simp [valueVars, ih]

theorem relationsOf_append (stmts stmts' : List Statement) :
    table.relationsOf next (stmts ++ stmts') = table.relationsOf next stmts ++
      table.relationsOf (next + (stmts.flatMap Statement.calls).length) stmts' := by
  induction stmts generalizing next with
  | nil => rfl
  | cons first rest ih =>
    rw [List.cons_append, relationsOf, ih, relationsOf, List.flatMap_cons, List.length_append,
      List.append_assoc, Nat.add_assoc]

/-- The variable stands for the value of the expression: for a reference it is the variable of the
name, and for a call it is a new one, which is the result of that call. -/
def Denotes (table : SymbolTable) (relations : List Relation) (v : TypeVar) : Expr → Prop
  | .ref name => v = table.var name
  | .call callee args => table.size ≤ v.index ∧
      ∃ vars, .applies (table.var callee) vars v ∈ relations ∧ vars.length = args.length
  | .unsupported _ => False

/-- The relation is the one that the site gives. -/
def Stands (table : SymbolTable) (relations : List Relation) : Relation → Site → Prop
  | .applies callee args result, .call name exprs =>
    callee = table.var name ∧ table.size ≤ result.index ∧
      List.Forall₂ (table.Denotes relations) args exprs
  | .equates target other _ otherSymbol _, .assignment name value =>
    target = table.var name ∧ otherSymbol = table.symbolOf value.head ∧
      table.Denotes relations other value
  | _, _ => False

variable {relations : List Relation}

theorem denotes_valueVar (hnext : table.size ≤ next) {expr : Expr} (hscope : expr.InScope table)
    (hsub : table.callRelations next expr ⊆ relations) :
    table.Denotes relations (table.valueVar next expr) expr := by
  cases expr with
  | ref name => rfl
  | call callee args =>
    refine ⟨?_, table.valueVars next args, hsub ?_, length_valueVars args⟩
    · simp only [valueVar]
      omega
    · simp [callRelations, valueVar]
  | unsupported form => exact absurd hscope Expr.not_inScope_unsupported

theorem denotes_valueVars {args : List Expr} (hnext : table.size ≤ next)
    (hscope : ∀ arg ∈ args, arg.InScope table)
    (hsub : table.callRelationsList next args ⊆ relations) :
    List.Forall₂ (table.Denotes relations) (table.valueVars next args) args := by
  induction args generalizing next with
  | nil => exact .nil
  | cons first rest ih =>
    obtain ⟨hfirst, hrest⟩ := List.forall_mem_cons.mp hscope
    rw [callRelationsList, List.append_subset] at hsub
    exact .cons (denotes_valueVar hnext hfirst hsub.1) (ih (by omega) hrest hsub.2)

private theorem stands_callRelationsList {args : List Expr}
    (harg : ∀ arg ∈ args, ∀ next, table.size ≤ next → table.callRelations next arg ⊆ relations →
      List.Forall₂ (table.Stands relations) (table.callRelations next arg) arg.calls)
    (hnext : table.size ≤ next) (hsub : table.callRelationsList next args ⊆ relations) :
    List.Forall₂ (table.Stands relations) (table.callRelationsList next args)
      (Expr.callsList args) := by
  induction args generalizing next with
  | nil => exact .nil
  | cons first rest ih =>
    obtain ⟨hfirst, hrest⟩ := List.forall_mem_cons.mp harg
    rw [callRelationsList, List.append_subset] at hsub
    exact List.rel_append (hfirst next hnext hsub.1) (ih hrest (by omega) hsub.2)

theorem stands_callRelations (hnext : table.size ≤ next) {expr : Expr}
    (hscope : expr.InScope table) (hsub : table.callRelations next expr ⊆ relations) :
    List.Forall₂ (table.Stands relations) (table.callRelations next expr) expr.calls := by
  induction expr using Expr.inductionOn generalizing next with
  | ref name => exact .nil
  | call callee args ih =>
    obtain ⟨_, hargs⟩ := Expr.inScope_call.mp hscope
    rw [callRelations, List.append_subset] at hsub
    have hinner := stands_callRelationsList
      (fun arg harg _ hnext hsub => ih arg harg hnext (hargs arg harg) hsub) hnext hsub.1
    refine List.rel_append hinner (.cons ⟨rfl, ?_, ?_⟩ .nil)
    · simp only
      omega
    · exact denotes_valueVars hnext hargs hsub.1
  | unsupported form => exact .nil

theorem stands_statementRelations (hnext : table.size ≤ next) {statement : Statement}
    (hscope : statement.InScope table)
    (hsub : table.statementRelations next statement ⊆ relations) :
    List.Forall₂ (table.Stands relations) (table.statementRelations next statement)
      statement.sites := by
  unfold statementRelations Statement.sites at *
  cases hassign : statement.assignment? with
  | none => exact .nil
  | some pair =>
    obtain ⟨_, hvalue⟩ := hscope pair.1 pair.2 hassign
    simp only [hassign, List.append_subset] at hsub
    exact List.rel_append (stands_callRelations hnext hvalue hsub.1)
      (.cons ⟨rfl, rfl, denotes_valueVar hnext hvalue hsub.1⟩ .nil)

/-- The relations of a program stand for its sites, one by one. -/
theorem stands_relationsOf (hnext : table.size ≤ next) {stmts : List Statement}
    (hscope : ∀ statement ∈ stmts, statement.InScope table)
    (hsub : table.relationsOf next stmts ⊆ relations) :
    List.Forall₂ (table.Stands relations) (table.relationsOf next stmts)
      (stmts.flatMap Statement.sites) := by
  induction stmts generalizing next with
  | nil => exact .nil
  | cons first rest ih =>
    obtain ⟨hfirst, hrest⟩ := List.forall_mem_cons.mp hscope
    rw [relationsOf, List.append_subset] at hsub
    rw [List.flatMap_cons]
    exact List.rel_append (stands_statementRelations hnext hfirst hsub.1)
      (ih (by omega) hrest hsub.2)

private theorem isCall_of_mem_callRelationsList {args : List Expr} {relation : Relation}
    (harg : ∀ arg ∈ args, ∀ next, relation ∈ table.callRelations next arg →
      ∃ callee vars result, relation = .applies callee vars result)
    (hmem : relation ∈ table.callRelationsList next args) :
    ∃ callee vars result, relation = .applies callee vars result := by
  induction args generalizing next with
  | nil => cases hmem
  | cons first rest ih =>
    obtain ⟨hfirst, hrest⟩ := List.forall_mem_cons.mp harg
    rcases List.mem_append.mp hmem with hmem | hmem
    · exact hfirst next hmem
    · exact ih hrest hmem

theorem isCall_of_mem_callRelations {expr : Expr} {relation : Relation}
    (hmem : relation ∈ table.callRelations next expr) :
    ∃ callee vars result, relation = .applies callee vars result := by
  induction expr using Expr.inductionOn generalizing next with
  | ref name => cases hmem
  | call callee args ih =>
    rcases List.mem_append.mp hmem with hmem | hmem
    · exact isCall_of_mem_callRelationsList (fun arg harg _ => ih arg harg) hmem
    · exact ⟨_, _, _, List.mem_singleton.mp hmem⟩
  | unsupported form => cases hmem

/-- Where a relation equates two variables, its statement assigns the value of the second to the
symbol of the first. -/
theorem assignment_of_mem_relationsOf (hnext : table.size ≤ next) {stmts : List Statement}
    (hscope : ∀ statement ∈ stmts, statement.InScope table)
    (hsub : table.relationsOf next stmts ⊆ relations) {target other : TypeVar}
    {targetSymbol otherSymbol : Symbol} {statement : Statement}
    (hmem : .equates target other targetSymbol otherSymbol statement ∈
      table.relationsOf next stmts) :
    ∃ name value, statement.assignment? = some (name, value) ∧ name ∈ table.names ∧
      value.InScope table ∧ target = table.var name ∧ targetSymbol = table.symbolOf name ∧
      table.Denotes relations other value := by
  induction stmts generalizing next with
  | nil => cases hmem
  | cons first rest ih =>
    obtain ⟨hfirst, hrest⟩ := List.forall_mem_cons.mp hscope
    rw [relationsOf, List.append_subset] at hsub
    rcases List.mem_append.mp hmem with hmem | hmem
    · unfold statementRelations at hmem hsub
      cases hassign : first.assignment? with
      | none => simp [hassign] at hmem
      | some pair =>
        obtain ⟨hname, hvalue⟩ := hfirst pair.1 pair.2 hassign
        simp only [hassign, List.append_subset] at hmem hsub
        rcases List.mem_append.mp hmem with hmem | hmem
        · obtain ⟨_, _, _, heq⟩ := isCall_of_mem_callRelations hmem
          cases heq
        · cases List.mem_singleton.mp hmem
          exact ⟨pair.1, pair.2, hassign, hname, hvalue, rfl, rfl,
            denotes_valueVar hnext hvalue hsub.1.1⟩
    · exact ih (by omega) hrest hsub.2 hmem

end SymbolTable

theorem exists_right_of_forall₂ {α β : Type} {R : α → β → Prop} {xs : List α} {ys : List β}
    (h : List.Forall₂ R xs ys) {x : α} (hx : x ∈ xs) : ∃ y ∈ ys, R x y := by
  induction h with
  | nil => cases hx
  | cons hfirst _ ih =>
    rcases List.mem_cons.mp hx with rfl | hx
    · exact ⟨_, List.mem_cons_self, hfirst⟩
    · obtain ⟨y, hy, hR⟩ := ih hx
      exact ⟨y, List.mem_cons_of_mem _ hy, hR⟩

theorem exists_left_of_forall₂ {α β : Type} {R : α → β → Prop} {xs : List α} {ys : List β}
    (h : List.Forall₂ R xs ys) {y : β} (hy : y ∈ ys) : ∃ x ∈ xs, R x y :=
  exists_right_of_forall₂ h.flip hy

theorem newVars_append (first m n : Nat) :
    newVars first m ++ newVars (first + m) n = newVars first (m + n) := by
  unfold newVars
  rw [← List.map_append, List.range'_append_1]

theorem newVars_concat (first count : Nat) :
    newVars first count ++ [⟨((first + count : Nat) : Int)⟩] = newVars first (count + 1) :=
  newVars_append first count 1

theorem nodup_newVars (first count : Nat) : (newVars first count).Nodup := by
  refine List.Nodup.map ?_ List.nodup_range'
  intro m n h
  injection h with h
  omega

theorem length_newVars (first count : Nat) : (newVars first count).length = count := by
  simp [newVars]

theorem mem_newVars {first count : Nat} {v : TypeVar} :
    v ∈ newVars first count ↔ (first : Int) ≤ v.index ∧ v.index < first + count := by
  obtain ⟨index⟩ := v
  simp only [newVars, List.mem_map, List.mem_range'_1, TypeVar.mk.injEq]
  constructor
  · rintro ⟨n, hn, rfl⟩
    omega
  · rintro ⟨hlow, hhigh⟩
    exact ⟨index.toNat, by omega, by omega⟩

namespace Relation

/-- The variable that a call introduces for its result. -/
def results : Relation → List TypeVar
  | .applies _ _ result => [result]
  | .equates .. => []

/-- The variables whose values a relation uses. -/
def inputs : Relation → List TypeVar
  | .applies _ args _ => args
  | .equates _ other _ _ _ => [other]

end Relation

namespace SymbolTable

variable {table : SymbolTable} {next : Nat}

private theorem results_callRelationsList_of {args : List Expr}
    (harg : ∀ arg ∈ args, ∀ next,
      (table.callRelations next arg).flatMap Relation.results = newVars next arg.calls.length) :
    (table.callRelationsList next args).flatMap Relation.results =
      newVars next (Expr.callsList args).length := by
  induction args generalizing next with
  | nil => rfl
  | cons first rest ih =>
    obtain ⟨hfirst, hrest⟩ := List.forall_mem_cons.mp harg
    rw [callRelationsList, List.flatMap_append, hfirst, ih hrest, newVars_append, Expr.callsList,
      List.length_append]

theorem results_callRelations (expr : Expr) :
    (table.callRelations next expr).flatMap Relation.results =
      newVars next expr.calls.length := by
  induction expr using Expr.inductionOn generalizing next with
  | ref name => rfl
  | call callee args ih =>
    have hinner : (table.callRelationsList next args).flatMap Relation.results = _ :=
      results_callRelationsList_of fun arg harg _ => ih arg harg
    rw [callRelations, List.flatMap_append, hinner, Expr.calls, List.length_append]
    exact newVars_concat next _
  | unsupported form => rfl

theorem results_callRelationsList (args : List Expr) :
    (table.callRelationsList next args).flatMap Relation.results =
      newVars next (Expr.callsList args).length :=
  results_callRelationsList_of fun arg _ _ => results_callRelations arg

theorem results_statementRelations (statement : Statement) :
    (table.statementRelations next statement).flatMap Relation.results =
      newVars next statement.calls.length := by
  unfold statementRelations Statement.calls
  cases statement.assignment? with
  | none => rfl
  | some pair =>
    simp only [List.flatMap_append, results_callRelations]
    exact List.append_nil _

theorem results_relationsOf (stmts : List Statement) :
    (table.relationsOf next stmts).flatMap Relation.results =
      newVars next (stmts.flatMap Statement.calls).length := by
  induction stmts generalizing next with
  | nil => rfl
  | cons first rest ih =>
    rw [relationsOf, List.flatMap_append, results_statementRelations, ih, newVars_append,
      List.flatMap_cons, List.length_append]

variable {low : Nat}

private theorem inputs_callRelationsList {args : List Expr}
    (harg : ∀ arg ∈ args, ∀ next, low ≤ next →
      List.Perm (((table.callRelations next arg).flatMap Relation.inputs ++
        [table.valueVar next arg]).filter fun v => (low : Int) ≤ v.index)
        (newVars next arg.calls.length)) (hnext : low ≤ next) :
    List.Perm (((table.callRelationsList next args).flatMap Relation.inputs ++
      table.valueVars next args).filter fun v => (low : Int) ≤ v.index)
      (newVars next (Expr.callsList args).length) := by
  induction args generalizing next with
  | nil => exact .refl _
  | cons first rest ih =>
    obtain ⟨hfirst, hrest⟩ := List.forall_mem_cons.mp harg
    have hsplit := (hfirst next hnext).append
      (ih hrest (by omega : low ≤ next + first.calls.length))
    rw [newVars_append, ← List.filter_append] at hsplit
    rw [callRelationsList, valueVars, Expr.callsList, List.length_append, List.flatMap_append]
    refine List.Perm.trans (List.Perm.filter _ ?_) hsplit
    simp only [List.append_assoc, List.singleton_append]
    exact List.perm_middle.append_left _

private theorem inputs_callRelations (hlow : table.size ≤ low) (hnext : low ≤ next) {expr : Expr}
    (hscope : expr.InScope table) :
    List.Perm (((table.callRelations next expr).flatMap Relation.inputs ++
      [table.valueVar next expr]).filter fun v => (low : Int) ≤ v.index)
      (newVars next expr.calls.length) := by
  induction expr using Expr.inductionOn generalizing next with
  | ref name =>
    have hvar : ¬ (low : Int) ≤ (table.var name).index := by
      have hlt := var_lt (Expr.inScope_ref.mp hscope)
      omega
    simp [callRelations, valueVar, hvar, Expr.calls, newVars]
  | call callee args ih =>
    obtain ⟨_, hargs⟩ := Expr.inScope_call.mp hscope
    have hinner : List.Perm _ _ := inputs_callRelationsList
      (fun arg harg _ hnext => ih arg harg hnext (hargs arg harg)) hnext
    have hnew : (low : Int) ≤ (next + (Expr.callsList args).length : Nat) := by omega
    rw [callRelations, List.flatMap_append, Expr.calls, List.length_append,
      List.flatMap_singleton, Relation.inputs, List.filter_append]
    refine (hinner.append (.refl _)).trans ?_
    simp only [valueVar, List.filter_cons, hnew, decide_true, if_true, List.filter_nil]
    rw [newVars_concat]
    exact .refl _
  | unsupported form => exact absurd hscope Expr.not_inScope_unsupported

/-- Every new variable is used exactly once. -/
theorem inputs_relationsOf (hlow : table.size ≤ low) (hnext : low ≤ next) {stmts : List Statement}
    (hscope : ∀ statement ∈ stmts, statement.InScope table) :
    List.Perm (((table.relationsOf next stmts).flatMap Relation.inputs).filter
      fun v => (low : Int) ≤ v.index) (newVars next (stmts.flatMap Statement.calls).length) := by
  induction stmts generalizing next with
  | nil => exact .refl _
  | cons first rest ih =>
    obtain ⟨hfirst, hrest⟩ := List.forall_mem_cons.mp hscope
    have hstatement : List.Perm (((table.statementRelations next first).flatMap
        Relation.inputs).filter fun v => (low : Int) ≤ v.index)
        (newVars next first.calls.length) := by
      unfold statementRelations Statement.calls
      cases hassign : first.assignment? with
      | none => exact .refl _
      | some pair =>
        have hvalue := (hfirst pair.1 pair.2 hassign).2
        simp only [List.flatMap_append]
        exact inputs_callRelations hlow hnext hvalue
    rw [relationsOf, List.flatMap_append, List.filter_append, List.flatMap_cons,
      List.length_append, ← newVars_append]
    exact hstatement.append (ih (by omega) hrest)

end SymbolTable

end Typeflow
