import Typeflow.SymbolTable

/-!
What a program says, apart from the order in which it says it. A site is a place of the program
that gives a relation: a call, or an assignment of a value to a name. The calls in an expression
are listed from the inside out and from left to right. An offence is a use of a name that the
table does not hold, or an expression that has no type.
-/

namespace Typeflow

inductive Site where
  | call (callee : Identifier) (args : List Expr)
  | assignment (target : Identifier) (value : Expr)

namespace Expr

/-- Induction over expressions, with a hypothesis for every argument of a call. -/
theorem inductionOn {motive : Expr → Prop} (expr : Expr) (ref : ∀ name, motive (.ref name))
    (call : ∀ callee args, (∀ arg ∈ args, motive arg) → motive (.call callee args))
    (unsupported : ∀ form, motive (.unsupported form)) : motive expr := by
  refine @Expr.rec motive (fun args => ∀ arg ∈ args, motive arg) ref call unsupported ?_ ?_ expr
  · intro arg harg
    cases harg
  · intro first rest hfirst hrest arg harg
    rcases List.mem_cons.mp harg with rfl | harg
    · exact hfirst
    · exact hrest arg harg

mutual

/-- The calls in an expression, each behind those in its arguments. -/
def calls : Expr → List Site
  | .ref _ => []
  | .call callee args => callsList args ++ [.call callee args]
  | .unsupported _ => []

def callsList : List Expr → List Site
  | [] => []
  | expr :: rest => expr.calls ++ callsList rest

end

mutual

def isSupported : Expr → Bool
  | .ref _ => true
  | .call _ args => areSupported args
  | .unsupported _ => false

def areSupported : List Expr → Bool
  | [] => true
  | expr :: rest => expr.isSupported && areSupported rest

end

mutual

def names : Expr → List Identifier
  | .ref name => [name]
  | .call callee args => callee :: namesList args
  | .unsupported _ => []

def namesList : List Expr → List Identifier
  | [] => []
  | expr :: rest => expr.names ++ namesList rest

end

/-- The name that the type of the value comes from; empty for an expression without a type. -/
def head : Expr → Identifier
  | .ref name => name
  | .call callee _ => callee
  | .unsupported _ => ⟨[]⟩

end Expr

namespace Site

/-- The name whose type a site waits for. -/
def head : Site → Identifier
  | .call callee _ => callee
  | .assignment _ value => value.head

end Site

namespace SymbolTable

/-- A name that is not in the table is an offence. -/
def missing (table : SymbolTable) (statement : Statement) (name : Identifier) :
    List InferenceError :=
  if name ∈ table.names then [] else [.undefined name statement]

mutual

/-- The offences in an expression: a callee comes before its arguments. -/
def offences (table : SymbolTable) (statement : Statement) : Expr → List InferenceError
  | .ref name => table.missing statement name
  | .call callee args => table.missing statement callee ++ table.offencesList statement args
  | .unsupported form => [.unsupported form statement]

def offencesList (table : SymbolTable) (statement : Statement) :
    List Expr → List InferenceError
  | [] => []
  | expr :: rest => table.offences statement expr ++ table.offencesList statement rest

end

end SymbolTable

namespace Statement

def isKnown : Statement → Bool
  | .declare _ | .assign _ _ => true
  | .unknown | .missing => false

/-- The name that a statement gives a value to, and the value. -/
def assignment? : Statement → Option (Identifier × Expr)
  | .declare ⟨name, some init⟩ => some (name, init)
  | .assign name value => some (name, value)
  | _ => none

/-- The sites of a statement: the calls in its value, and then the assignment. -/
def sites (statement : Statement) : List Site :=
  match statement.assignment? with
  | some (target, value) => value.calls ++ [.assignment target value]
  | none => []

def names (statement : Statement) : List Identifier :=
  match statement.assignment? with
  | some (target, value) => target :: value.names
  | none => []

def isSupported (statement : Statement) : Bool :=
  match statement.assignment? with
  | some (_, value) => value.isSupported
  | none => true

/-- The offences of a statement: the target comes before the value. -/
def offences (statement : Statement) (table : SymbolTable) : List InferenceError :=
  match statement.assignment? with
  | some (target, value) =>
    table.missing statement target ++ table.offences statement value
  | none => []

end Statement

namespace Expr

/-- The expression has a type to ask for: it is built of references and calls, and the table holds
their names. -/
def InScope (table : SymbolTable) (expr : Expr) : Prop :=
  expr.isSupported = true ∧ ∀ name ∈ expr.names, name ∈ table.names

variable {table : SymbolTable}

theorem inScope_ref {name : Identifier} : (Expr.ref name).InScope table ↔ name ∈ table.names := by
  simp [InScope, isSupported, names]

theorem areSupported_iff {args : List Expr} :
    areSupported args = true ↔ ∀ arg ∈ args, arg.isSupported = true := by
  induction args with
  | nil => simp [areSupported]
  | cons first rest ih => simp [areSupported, ih]

theorem mem_namesList {args : List Expr} {name : Identifier} :
    name ∈ namesList args ↔ ∃ arg ∈ args, name ∈ arg.names := by
  induction args with
  | nil => simp [namesList]
  | cons first rest ih => simp [namesList, ih]

theorem inScope_call {callee : Identifier} {args : List Expr} :
    (Expr.call callee args).InScope table ↔
      callee ∈ table.names ∧ ∀ arg ∈ args, arg.InScope table := by
  simp only [InScope, isSupported, names, areSupported_iff, List.forall_mem_cons, mem_namesList]
  constructor
  · rintro ⟨hsupported, hcallee, hnames⟩
    exact ⟨hcallee, fun arg harg => ⟨hsupported arg harg, fun n hn => hnames n ⟨arg, harg, hn⟩⟩⟩
  · rintro ⟨hcallee, hargs⟩
    refine ⟨fun arg harg => (hargs arg harg).1, hcallee, ?_⟩
    rintro name ⟨arg, harg, hname⟩
    exact (hargs arg harg).2 name hname

theorem not_inScope_unsupported {form : Unsupported} :
    ¬ (Expr.unsupported form).InScope table := by
  simp [InScope, isSupported]

end Expr

/-- All names of the site are in the table, and its expressions have types to ask for. -/
def Site.InScope (table : SymbolTable) : Site → Prop
  | .call callee args => (Expr.call callee args).InScope table
  | .assignment target value => target ∈ table.names ∧ value.InScope table

theorem Expr.mem_callsList {args : List Expr} {site : Site} :
    site ∈ callsList args ↔ ∃ arg ∈ args, site ∈ arg.calls := by
  induction args with
  | nil => simp [callsList]
  | cons first rest ih => simp [callsList, ih]

theorem Expr.InScope.calls {table : SymbolTable} {expr : Expr} (h : expr.InScope table) :
    ∀ site ∈ expr.calls, site.InScope table := by
  induction expr using Expr.inductionOn with
  | ref name => simp [Expr.calls]
  | call callee args ih =>
    intro site hsite
    rw [Expr.calls, List.mem_append, Expr.mem_callsList, List.mem_singleton] at hsite
    rcases hsite with ⟨arg, harg, hsite⟩ | rfl
    · exact ih arg harg ((inScope_call.mp h).2 arg harg) site hsite
    · exact h
  | unsupported form => simp [Expr.calls]

namespace SymbolTable

variable {table : SymbolTable} {statement : Statement}

theorem missing_eq_nil_iff {name : Identifier} :
    table.missing statement name = [] ↔ name ∈ table.names := by
  unfold missing
  split <;> simp [*]

theorem offencesList_eq_nil_iff {args : List Expr} :
    table.offencesList statement args = [] ↔
      ∀ arg ∈ args, table.offences statement arg = [] := by
  induction args with
  | nil => simp [offencesList]
  | cons first rest ih => simp [offencesList, ih]

theorem offences_eq_nil_iff {expr : Expr} :
    table.offences statement expr = [] ↔ expr.InScope table := by
  induction expr using Expr.inductionOn with
  | ref name => rw [offences, missing_eq_nil_iff, Expr.inScope_ref]
  | call callee args ih =>
    rw [offences, List.append_eq_nil_iff, missing_eq_nil_iff, offencesList_eq_nil_iff,
      Expr.inScope_call]
    exact and_congr_right fun _ => forall₂_congr ih
  | unsupported form => simp [offences, Expr.not_inScope_unsupported]

theorem mem_offencesList {args : List Expr} {error : InferenceError} :
    error ∈ table.offencesList statement args ↔
      ∃ arg ∈ args, error ∈ table.offences statement arg := by
  induction args with
  | nil => simp [offencesList]
  | cons first rest ih => simp [offencesList, ih]

theorem missing_kind {name : Identifier} :
    ∀ error ∈ table.missing statement name, error.kind = .undefined := by
  intro error herror
  unfold missing at herror
  split at herror
  · cases herror
  · rw [List.mem_singleton.mp herror]
    rfl

theorem offences_kind {expr : Expr} :
    ∀ error ∈ table.offences statement expr,
      error.kind = .undefined ∨ error.kind = .unsupported ∧ ¬ expr.isSupported = true := by
  induction expr using Expr.inductionOn with
  | ref name => exact fun error herror => Or.inl (missing_kind error herror)
  | call callee args ih =>
    intro error herror
    rw [offences, List.mem_append, mem_offencesList] at herror
    rcases herror with herror | ⟨arg, harg, herror⟩
    · exact Or.inl (missing_kind error herror)
    · refine (ih arg harg error herror).imp id fun h => ⟨h.1, fun hcall => ?_⟩
      exact h.2 (Expr.areSupported_iff.mp hcall arg harg)
  | unsupported form =>
    intro error herror
    rw [List.mem_singleton.mp herror]
    exact Or.inr ⟨rfl, by simp [Expr.isSupported]⟩

end SymbolTable

namespace Statement

/-- The statement looks up nothing, or its target is in the table and its value is in scope. -/
def InScope (table : SymbolTable) (statement : Statement) : Prop :=
  ∀ target value, statement.assignment? = some (target, value) →
    target ∈ table.names ∧ value.InScope table

theorem InScope.sites {table : SymbolTable} {statement : Statement}
    (h : statement.InScope table) : ∀ site ∈ statement.sites, site.InScope table := by
  intro site hsite
  unfold Statement.sites at hsite
  cases hassign : statement.assignment? with
  | none => simp [hassign] at hsite
  | some pair =>
    simp only [hassign, List.mem_append, List.mem_singleton] at hsite
    obtain ⟨htarget, hvalue⟩ := h pair.1 pair.2 hassign
    rcases hsite with hsite | rfl
    · exact hvalue.calls site hsite
    · exact ⟨htarget, hvalue⟩

theorem inScope_iff {table : SymbolTable} {statement : Statement} :
    statement.InScope table ↔
      statement.isSupported = true ∧ ∀ name ∈ statement.names, name ∈ table.names := by
  unfold InScope isSupported names
  cases statement.assignment? with
  | none => simp
  | some pair =>
    simp only [Option.some.injEq, List.forall_mem_cons, Expr.InScope]
    constructor
    · intro h
      exact and_left_comm.mp (h pair.1 pair.2 rfl)
    · rintro h target value rfl
      exact and_left_comm.mp h

theorem offences_eq_nil_iff {table : SymbolTable} {statement : Statement} :
    statement.offences table = [] ↔ statement.InScope table := by
  unfold InScope offences
  cases statement.assignment? with
  | none => simp
  | some pair =>
    simp only [List.append_eq_nil_iff, SymbolTable.missing_eq_nil_iff,
      SymbolTable.offences_eq_nil_iff, Option.some.injEq]
    constructor
    · rintro h target value rfl
      exact h
    · intro h
      exact h pair.1 pair.2 rfl

theorem offences_kind {table : SymbolTable} {statement : Statement} :
    ∀ error ∈ statement.offences table,
      error.kind = .undefined ∨ error.kind = .unsupported ∧ ¬ statement.isSupported = true := by
  unfold offences isSupported
  cases statement.assignment? with
  | none => simp
  | some pair =>
    intro error herror
    rcases List.mem_append.mp herror with herror | herror
    · exact Or.inl (SymbolTable.missing_kind error herror)
    · exact SymbolTable.offences_kind error herror

end Statement

end Typeflow
