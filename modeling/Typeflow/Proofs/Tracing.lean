import Typeflow.Proofs.Ends
import Typeflow.Proofs.Program.Sites
import Typeflow.Proofs.Script
import Typeflow.Solution

/-!
Tracing does not take part in inference. Every part of the engine follows a script, and so does
inference as a whole. It ends the same with and without a trace, unless the trace is full: then it
ends there, and no attempt within the engine catches this.
-/

namespace Typeflow

open Text
open Traced (withTrace)

theorem Trace.write_scripted (channel : Channel) (line : Text) (trace : Trace) :
    Scripted (Trace.write channel line) trace := by
  refine ⟨[(channel, line)], .ok () trace, fun trace' => ?_⟩
  rw [Trace.writeAll_singleton, show withTrace trace trace' = trace' from rfl]
  cases Trace.write channel line trace' with
  | ok _ after => exact rfl
  | error failure after => exact ⟨after, rfl⟩

namespace Unifier

variable {α : Type}

theorem query_scripted (ask : Query α) (session : Session) : Scripted (query ask) session := by
  cases hask : ask session.arena with
  | ok answer arena =>
    refine Scripted.of_silent (.ok answer { session with arena }) fun trace => ?_
    simp only [query, withTrace, hask, retrace]
  | error fault arena =>
    refine Scripted.of_silent (.error (.fault fault) { session with arena }) fun trace => ?_
    simp only [query, withTrace, hask, retrace]

theorem write_scripted (channel : Channel) (line : Text) (session : Session) :
    Scripted (write channel line) session := by
  refine ⟨[(channel, line)], .ok () session, fun trace => ?_⟩
  rw [Trace.writeAll_singleton]
  simp only [write, withTrace]
  cases Trace.write channel line trace with
  | ok _ trace' => exact rfl
  | error failure trace' => exact ⟨session, rfl⟩

theorem fresh_scripted (session : Session) : Scripted fresh session :=
  Scripted.of_silent (fresh session) fun _ => rfl

theorem lookup_scripted (v : TypeVar) (session : Session) : Scripted (lookup v) session := by
  refine Scripted.of_silent (lookup v session) fun trace => ?_
  simp only [lookup, withTrace]
  cases session.arena.lookup v <;> rfl

theorem substitute_scripted (v : TypeVar) (ty : Ty) (session : Session) :
    Scripted (substitute v ty) session := by
  refine Scripted.bind (lookup_scripted v session) fun entry s => ?_
  cases entry with
  | some existing =>
    refine Scripted.bind (query_scripted _ s) fun same s => ?_
    refine Scripted.ite (Scripted.pure _ s) ?_
    exact Scripted.bind (query_scripted _ s) fun _ s =>
      Scripted.bind (query_scripted _ s) fun _ s => Scripted.throw _ s
  | none =>
    exact Scripted.bind (write_scripted _ _ s) fun _ _ => Scripted.of_modify fun _ => rfl

theorem bindVar_scripted (v : TypeVar) (ty : Ty) (session : Session) :
    Scripted (bindVar v ty) session := by
  have hchecked : Scripted (do
      if ← query (Arena.occurs v ty) then
        let ty ← query (Arena.apply ty)
        throw (.error (.occurs v ty))
      else substitute v ty) session := by
    refine Scripted.bind (query_scripted _ session) fun occurs s => ?_
    refine Scripted.ite ?_ (substitute_scripted v ty s)
    exact Scripted.bind (query_scripted _ s) fun _ s => Scripted.throw _ s
  cases ty with
  | var w => exact substitute_scripted v (.var w) session
  | _ => exact hchecked

theorem refuse_scripted (reason : Ty → Ty → InferenceError) (left right : Ty)
    (session : Session) : Scripted (refuse reason left right) session :=
  Scripted.bind (query_scripted _ session) fun _ s =>
    Scripted.bind (query_scripted _ s) fun _ s => Scripted.throw _ s

theorem unifyWithin_scripted (depth : Nat) (left right : Ty) (session : Session) :
    Scripted (unifyWithin depth left right) session := by
  induction depth generalizing left right session with
  | zero => exact Scripted.throw _ session
  | succ depth ih =>
    rw [unifyWithin, Resolver.unifyWithin]
    refine Scripted.bind (query_scripted _ session) fun left s => ?_
    refine Scripted.bind (query_scripted _ s) fun right s => ?_
    refine Scripted.bind (write_scripted _ _ s) fun _ s => ?_
    split
    · exact Scripted.ite (Scripted.throw _ s) (bindVar_scripted _ _ s)
    · exact bindVar_scripted _ _ s
    · exact bindVar_scripted _ _ s
    · exact Scripted.ite (Scripted.pure _ s) (refuse_scripted _ _ _ s)
    · refine Scripted.ite (refuse_scripted _ _ _ s) ?_
      exact Scripted.bind (Scripted.forM _ (fun pair _ s => ih pair.1 pair.2 s) s) fun _ s =>
        ih _ _ s
    · exact Scripted.throw _ s
    · exact refuse_scripted _ _ _ s

theorem unify_scripted (left right : Ty) (session : Session) :
    Scripted (unify left right) session :=
  unifyWithin_scripted (session.arena.depthBound [left, right]) left right session

end Unifier

namespace CheckerM

variable {α : Type}

theorem unifier_scripted {action : Unifier α} {checker : Checker}
    (h : Scripted action checker.session) : Scripted (unifier action) checker := by
  obtain ⟨script, ending, hperforms⟩ := h
  refine ⟨script, unifier (fun _ => ending) checker, fun trace => ?_⟩
  have hrun := hperforms trace
  cases hwrites : Trace.writeAll script trace with
  | ok _ trace' =>
    simp only [hwrites] at hrun
    simp only [unifier, withTrace] at hrun ⊢
    rw [hrun]
    cases ending <;> rfl
  | error failure trace' =>
    simp only [hwrites] at hrun
    obtain ⟨session, hstops⟩ := hrun
    refine ⟨{ checker with session }, ?_⟩
    simp only [unifier, withTrace] at hstops ⊢
    rw [hstops]

theorem query_scripted (ask : Query α) (checker : Checker) : Scripted (query ask) checker :=
  unifier_scripted (Unifier.query_scripted ask _)

theorem write_scripted (channel : Channel) (line : Text) (checker : Checker) :
    Scripted (write channel line) checker :=
  unifier_scripted (Unifier.write_scripted channel line _)

theorem varOf_scripted (symbol : Symbol) (checker : Checker) :
    Scripted (varOf symbol) checker := by
  refine Scripted.get_bind (fun _ => rfl) ?_
  cases checker.varOf symbol with
  | ok v => exact Scripted.pure v checker
  | error fault => exact Scripted.throw _ checker

theorem find_scripted (name : Identifier) (statement : Statement) (checker : Checker) :
    Scripted (find name statement) checker := by
  refine Scripted.get_bind (fun _ => rfl) ?_
  cases checker.table.find name statement with
  | ok symbol => exact Scripted.pure symbol checker
  | error error => exact Scripted.throw _ checker

theorem addRelation_scripted (relation : Relation) (checker : Checker) :
    Scripted (addRelation relation) checker :=
  Scripted.bind (write_scripted _ _ checker) fun _ _ => Scripted.of_modify fun _ => rfl

theorem synthArgs_scripted {statement : Statement} (args : List Expr)
    (h : ∀ arg ∈ args, ∀ checker, Scripted (synth statement arg) checker) (checker : Checker) :
    Scripted (synthArgs statement args) checker := by
  induction args generalizing checker with
  | nil =>
    rw [synthArgs]
    exact Scripted.pure _ checker
  | cons first rest ih =>
    obtain ⟨hfirst, hrest⟩ := List.forall_mem_cons.mp h
    rw [synthArgs]
    exact Scripted.bind (hfirst checker) fun _ c =>
      Scripted.bind (ih hrest c) fun _ c => Scripted.pure _ c

theorem synth_scripted (statement : Statement) (expr : Expr) (checker : Checker) :
    Scripted (synth statement expr) checker := by
  induction expr using Expr.inductionOn generalizing checker with
  | ref name =>
    rw [synth]
    exact Scripted.bind (find_scripted name statement checker) fun _ c =>
      Scripted.bind (varOf_scripted _ c) fun _ c => Scripted.pure _ c
  | call callee args ih =>
    rw [synth]
    refine Scripted.bind (find_scripted callee statement checker) fun symbol c => ?_
    refine Scripted.bind (synthArgs_scripted args ih c) fun args c => ?_
    refine Scripted.bind (unifier_scripted (Unifier.fresh_scripted _)) fun result c => ?_
    refine Scripted.bind (varOf_scripted symbol c) fun v c => ?_
    exact Scripted.bind (addRelation_scripted _ c) fun _ c => Scripted.pure _ c
  | unsupported form =>
    rw [synth]
    exact Scripted.throw _ checker

theorem relateAssignment_scripted (statement : Statement) (target : Identifier) (value : Expr)
    (checker : Checker) : Scripted (relateAssignment statement target value) checker := by
  refine Scripted.bind (find_scripted target statement checker) fun symbol c => ?_
  refine Scripted.bind (synth_scripted statement value c) fun other c => ?_
  exact Scripted.bind (varOf_scripted symbol c) fun _ c => addRelation_scripted _ c

theorem generate_scripted (stmts : List Statement) (checker : Checker) :
    Scripted (generate stmts) checker := by
  refine Scripted.bind (write_scripted _ _ checker) fun _ c => ?_
  refine Scripted.forM stmts (fun statement _ c => ?_) c
  unfold relateStatement
  split
  · exact Scripted.pure _ c
  · exact relateAssignment_scripted _ _ _ c
  · exact relateAssignment_scripted _ _ _ c
  · exact Scripted.throw _ c
  · exact Scripted.throw _ c

theorem tryEquate_scripted (relation : Relation) (target other : TypeVar)
    (targetSymbol otherSymbol : Symbol) (statement : Statement) (checker : Checker) :
    Scripted (tryEquate relation target other targetSymbol otherSymbol statement) checker := by
  refine Scripted.bind (query_scripted _ checker) fun otherBound c => ?_
  refine Scripted.ite ?_ (Scripted.pure _ c)
  refine Scripted.bind (query_scripted _ c) fun otherType c => ?_
  refine Scripted.bind (query_scripted _ c) fun unresolvable c => ?_
  refine Scripted.ite (Scripted.pure _ c) ?_
  refine Scripted.bind (query_scripted _ c) fun targetBound c => ?_
  refine Scripted.ite ?_ ?_
  · refine Scripted.bind (query_scripted _ c) fun targetType c => ?_
    refine Scripted.bind
      (Scripted.attempt (unifier_scripted (Unifier.unify_scripted _ _ _))) fun result c => ?_
    cases result with
    | ok _ => exact Scripted.bind (write_scripted _ _ c) fun _ c => Scripted.pure _ c
    | error cause =>
      exact Scripted.bind (query_scripted _ c) fun _ c =>
        Scripted.bind (query_scripted _ c) fun _ c => Scripted.throw _ c
  · refine Scripted.bind (write_scripted _ _ c) fun _ c => ?_
    exact Scripted.bind (unifier_scripted (Unifier.unify_scripted _ _ _)) fun _ c =>
      Scripted.pure _ c

theorem cannotApply_scripted (ty : Ty) (checker : Checker) :
    Scripted (cannotApply ty) checker := by
  unfold cannotApply
  split
  · exact Scripted.pure _ checker
  · exact query_scripted _ checker
  · exact Scripted.pure _ checker

theorem tryApply_scripted (relation : Relation) (callee : TypeVar) (args : List TypeVar)
    (result : TypeVar) (checker : Checker) :
    Scripted (tryApply relation callee args result) checker := by
  refine Scripted.bind (query_scripted _ checker) fun calleeBound c => ?_
  refine Scripted.ite ?_ (Scripted.pure _ c)
  refine Scripted.bind (query_scripted _ c) fun calleeType c => ?_
  refine Scripted.bind (cannotApply_scripted calleeType c) fun _ c => ?_
  refine Scripted.ite (Scripted.pure _ c) ?_
  refine Scripted.bind (query_scripted _ c) fun _ c => ?_
  refine Scripted.ite (Scripted.pure _ c) ?_
  refine Scripted.bind (write_scripted _ _ c) fun _ c => ?_
  exact Scripted.bind (unifier_scripted (Unifier.unify_scripted _ _ _)) fun _ c =>
    Scripted.pure _ c

theorem tryResolve_scripted (relation : Relation) (checker : Checker) :
    Scripted (tryResolve relation) checker := by
  cases relation with
  | equates target other targetSymbol otherSymbol statement =>
    exact tryEquate_scripted _ target other targetSymbol otherSymbol statement checker
  | applies callee args result => exact tryApply_scripted _ callee args result checker

theorem resolveFirst_scripted (relations : List Relation) (checker : Checker) :
    Scripted (resolveFirst relations) checker := by
  induction relations generalizing checker with
  | nil => exact Scripted.pure _ checker
  | cons relation rest ih =>
    rw [resolveFirst]
    refine Scripted.bind (tryResolve_scripted relation checker) fun resolved c => ?_
    refine Scripted.ite (Scripted.pure _ c) ?_
    exact Scripted.bind (ih c) fun _ c => Scripted.pure _ c

theorem removeRelation_scripted (place : Nat) (checker : Checker) :
    Scripted (removeRelation place) checker := by
  refine Scripted.get_bind (fun _ => rfl) ?_
  cases removeAt checker.relations place with
  | ok remaining => exact Scripted.of_modify fun _ => rfl
  | error fault => exact Scripted.throw _ checker

theorem resolveNext_scripted (checker : Checker) : Scripted resolveNext checker := by
  refine Scripted.get_bind (fun _ => rfl) ?_
  refine Scripted.bind (resolveFirst_scripted _ checker) fun found c => ?_
  cases found with
  | some place =>
    exact Scripted.bind (removeRelation_scripted place c) fun _ c => Scripted.pure _ c
  | none => exact Scripted.pure _ c

theorem resolveAll_scripted (rounds round : Nat) (checker : Checker) :
    Scripted (resolveAll rounds round) checker := by
  induction rounds generalizing round checker with
  | zero => exact Scripted.pure _ checker
  | succ rounds ih =>
    rw [resolveAll]
    refine Scripted.bind (resolveNext_scripted checker) fun resolved c => ?_
    refine Scripted.ite ?_ (Scripted.pure _ c)
    refine Scripted.bind (write_scripted _ _ c) fun _ c => ?_
    refine Scripted.get_bind (fun _ => rfl) (Scripted.bind (write_scripted _ _ c) fun _ c => ?_)
    refine Scripted.get_bind (fun _ => rfl) (Scripted.bind (write_scripted _ _ c) fun _ c => ?_)
    exact ih (round + 1) c

theorem bindFunction_scripted (symbol : Symbol) (checker : Checker) :
    Scripted (bindFunction symbol) checker := by
  cases symbol with
  | function name signature =>
    exact Scripted.bind (varOf_scripted _ checker) fun _ c =>
      unifier_scripted (Unifier.unify_scripted _ _ _)
  | _ => exact Scripted.pure _ checker

theorem solve_scripted (checker : Checker) : Scripted solve checker := by
  refine Scripted.bind (write_scripted _ _ checker) fun _ c => ?_
  refine Scripted.get_bind (fun _ => rfl) (Scripted.bind
    (Scripted.forM _ (fun symbol _ c => bindFunction_scripted symbol c) c) fun _ c => ?_)
  refine Scripted.get_bind (fun _ => rfl)
    (Scripted.bind (resolveAll_scripted _ 0 c) fun _ c => ?_)
  refine Scripted.get_bind (fun _ => rfl) ?_
  exact Scripted.ite (Scripted.pure _ c) (write_scripted _ _ c)

theorem typeOf_scripted (symbol : Symbol) (checker : Checker) :
    Scripted (typeOf symbol) checker := by
  refine Scripted.bind (varOf_scripted symbol checker) fun v c => ?_
  refine Scripted.bind (query_scripted _ c) fun ty c => ?_
  cases ty <;> exact Scripted.pure _ c

theorem solution_scripted (checker : Checker) : Scripted solution checker := by
  refine Scripted.get_bind (fun _ => rfl) ?_
  refine Scripted.bind
    (Scripted.mapM _ (fun symbol _ c => typeOf_scripted symbol c) checker) fun types c => ?_
  exact Scripted.get_bind (fun _ => rfl) (Scripted.pure _ c)

end CheckerM

/-- The ending of a run, of whose state only the trace is handed on. -/
def handOn {α : Type} (ending : EStateM.Result Failure Checker α) :
    EStateM.Result Failure Trace α :=
  match ending with
  | .ok value checker => .ok value checker.session.trace
  | .error failure checker => .error failure checker.session.trace

theorem infer_eq (stmts : List Statement) (table : SymbolTable) (trace : Trace) :
    infer stmts table trace = handOn ((do
      CheckerM.generate stmts
      CheckerM.solve
      CheckerM.solution : CheckerM Solution) (Checker.ofTable table trace)) := by
  unfold infer
  dsimp only
  cases (do
    CheckerM.generate stmts
    CheckerM.solve
    CheckerM.solution : CheckerM Solution) (Checker.ofTable table trace) <;> rfl

theorem infer_scripted (stmts : List Statement) (table : SymbolTable) (trace : Trace) :
    Scripted (infer stmts table) trace := by
  have hrun : Scripted (do
      CheckerM.generate stmts
      CheckerM.solve
      CheckerM.solution) (Checker.ofTable table trace) :=
    Scripted.bind (CheckerM.generate_scripted stmts _) fun _ c =>
      Scripted.bind (CheckerM.solve_scripted c) fun _ c => CheckerM.solution_scripted c
  obtain ⟨script, ending, hperforms⟩ := hrun
  refine ⟨script, handOn ending, fun trace' => ?_⟩
  have hends := hperforms trace'
  rw [show withTrace trace trace' = trace' from rfl, infer_eq,
    show Checker.ofTable table trace' = withTrace (Checker.ofTable table trace) trace' from rfl]
  cases hwrites : Trace.writeAll script trace' with
  | ok _ after =>
    simp only [hwrites] at hends
    simp only [hends]
    cases ending <;> rfl
  | error failure after =>
    simp only [hwrites] at hends
    obtain ⟨checker, hstops⟩ := hends
    exact ⟨after, congrArg handOn hstops⟩

theorem resolveSymbols_scripted (stmts : List Statement) (catalogue : Catalogue) (trace : Trace) :
    Scripted (resolveSymbols stmts catalogue) trace := by
  unfold resolveSymbols
  cases declarations stmts with
  | error fault => exact Scripted.throw _ trace
  | ok declarations =>
    simp only
    cases SymbolTable.ofSymbols (declaredSymbols declarations catalogue) with
    | error error => exact Scripted.throw _ trace
    | ok table =>
      exact Scripted.bind (Trace.write_scripted _ _ trace) fun _ after =>
        Scripted.pure table after

theorem inferProgram_scripted (stmts : List Statement) (catalogue : Catalogue) (trace : Trace) :
    Scripted (resolveSymbols stmts catalogue >>= infer stmts) trace :=
  Scripted.bind (resolveSymbols_scripted stmts catalogue trace)
    fun table trace => infer_scripted stmts table trace

/-- Tracing has no influence on inference. Let `writes` be what a run leaves in a trace that takes
everything, and `outcome` its outcome. The outcome is the same when no channel is switched on. A
trace that takes `limit` lines ends the run with the same outcome and writes if they fit;
otherwise it stops the run with a fault, after the first `limit` of them. -/
theorem tracing_is_passive (stmts : List Statement) (catalogue : Catalogue)
    (channels : List Channel) (limit : Nat) :
    ∃ (outcome : Except Failure Solution) (writes : List Text),
      (resolveSymbols stmts catalogue >>= infer stmts) ⟨channels, none, []⟩ =
        concluded outcome ⟨channels, none, writes⟩ ∧
      (resolveSymbols stmts catalogue >>= infer stmts) Trace.off =
        concluded outcome Trace.off ∧
      (resolveSymbols stmts catalogue >>= infer stmts) ⟨channels, some limit, []⟩ =
        (if writes.length ≤ limit then concluded outcome ⟨channels, some limit, writes⟩
        else .error (.fault .traceFull) ⟨channels, some limit, writes.take limit⟩) ∧
      Fault.traceFull.message = utf8 "debug writer: full" := by
  obtain ⟨script, ending, hperforms⟩ := inferProgram_scripted stmts catalogue Trace.off
  obtain ⟨outcome, houtcome⟩ := exists_concluded ending
  refine ⟨outcome, Trace.shown channels script, ?_, ?_, ?_, rfl⟩
  · have hrun := hperforms ⟨channels, none, []⟩
    rw [Trace.writeAll_unlimited] at hrun
    exact hrun.trans (houtcome _)
  · have hrun := hperforms Trace.off
    rw [Trace.writeAll_off] at hrun
    exact hrun.trans (houtcome _)
  · have hrun := hperforms ⟨channels, some limit, []⟩
    rw [Trace.writeAll_limited channels limit script [] (Nat.zero_le limit)] at hrun
    by_cases hfits : (Trace.shown channels script).length ≤ limit
    · simp only [List.nil_append, hfits, if_true] at hrun ⊢
      exact hrun.trans (houtcome _)
    · simp only [List.nil_append, hfits, if_false] at hrun ⊢
      obtain ⟨_, hstops⟩ := hrun
      exact hstops

/-- With `f : () -> i` and `g : () -> b`, the run on `var x = f(); x = g();` writes thirteen lines
about comparisons, and the last comparison, which is made for the assignment, fails. A trace that
takes one line less stops the run there, and the conflict is not reported. -/
theorem tracing_is_passive_up_to_conflict :
    let f : Identifier := ⟨[102]⟩
    let g : Identifier := ⟨[103]⟩
    let x : Declaration := ⟨⟨[120]⟩, some (.call f [])⟩
    let b : Ty := .name ⟨[98]⟩
    let i : Ty := .name ⟨[105]⟩
    let catalogue := Catalogue.ofList [(f, ⟨[], i⟩), (g, ⟨[], b⟩)]
    let assignment : Statement := .assign x.name (.call g [])
    let run := resolveSymbols [.declare x, assignment] catalogue >>=
      infer [.declare x, assignment]
    let conflict : Failure := .error (.conflicting (.variable x) (.function g ⟨[], b⟩) i b
      assignment (.mismatch i b))
    ∃ writes : List Text, writes.length = 13 ∧ writes.getLast? = some (utf8 "? i = b\n") ∧
      run ⟨[.unify], none, []⟩ = .error conflict ⟨[.unify], none, writes⟩ ∧
      run Trace.off = .error conflict Trace.off ∧
      run ⟨[.unify], some 13, []⟩ = .error conflict ⟨[.unify], some 13, writes⟩ ∧
      run ⟨[.unify], some 12, []⟩ =
        .error (.fault .traceFull) ⟨[.unify], some 12, writes.take 12⟩ := by
  intro f g x b i catalogue assignment run conflict
  obtain ⟨failure, after, hrun, rfl, hlength, hlast⟩ : ∃ failure after,
      run ⟨[.unify], none, []⟩ = .error failure after ∧ failure = conflict ∧
      after.writes.length = 13 ∧ after.writes.getLast? = some (utf8 "? i = b\n") :=
    Ends.exists_error (by decide +kernel)
  obtain ⟨outcome, writes, hall, hoff, hfits, _⟩ :=
    tracing_is_passive [.declare x, assignment] catalogue [.unify] 13
  obtain ⟨outcome', writes', hall', _, hcut, _⟩ :=
    tracing_is_passive [.declare x, assignment] catalogue [.unify] 12
  have hends : concluded outcome ⟨[.unify], none, writes⟩ = .error conflict after :=
    hall.symm.trans hrun
  have hends' : concluded outcome' ⟨[.unify], none, writes'⟩ = .error conflict after :=
    hall'.symm.trans hrun
  cases outcome with
  | ok solution => cases hends
  | error failure =>
    cases outcome' with
    | ok solution => cases hends'
    | error failure' =>
      cases hends
      cases hends'
      rw [if_pos (Nat.le_of_eq hlength)] at hfits
      rw [if_neg (by rw [hlength]; decide)] at hcut
      exact ⟨writes, hlength, hlast, hrun, hoff, hfits, hcut⟩

end Typeflow
