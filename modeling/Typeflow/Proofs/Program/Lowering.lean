import Typeflow.Proofs.Checker.Registry
import Typeflow.Proofs.Program.Knowledge

/-!
The facts of a run against what its program says about names. The relations of the run stand for
the sites of the program one by one, and every new variable has one origin and one use; under
these conditions a fact about the variable of a name is the same as knowledge about the name.
-/

namespace Typeflow

/-- The relations of the run are those of the sites. -/
structure Lowered (catalogue : Catalogue) (sites : List Site) (checker : Checker) : Prop where
  builtins : ∀ name signature, .function name signature ∈ checker.table.symbols ↔
    (name, signature) ∈ catalogue.entries
  inScope : ∀ site ∈ sites, site.InScope checker.table
  stands : List.Forall₂ (checker.table.Stands checker.relations) checker.relations sites
  results : (checker.relations.flatMap Relation.results).Nodup
  inputs : ((checker.relations.flatMap Relation.inputs).filter
    fun v => (checker.table.size : Int) ≤ v.index).Nodup

theorem exists_zip_of_forall₂ {α β γ : Type} {R : α → β → Prop} {xs : List α} {ys : List β}
    {zs : List γ} (h : List.Forall₂ R xs ys) {y : β} {z : γ} (hmem : (y, z) ∈ ys.zip zs) :
    ∃ x, R x y ∧ (x, z) ∈ xs.zip zs := by
  induction h generalizing zs with
  | nil => simp at hmem
  | cons hfirst _ ih =>
    cases zs with
    | nil => simp at hmem
    | cons z' zs =>
      rw [List.zip_cons_cons, List.mem_cons] at hmem
      rcases hmem with heq | hmem
      · cases heq
        exact ⟨_, hfirst, List.mem_cons_self⟩
      · obtain ⟨x, hR, hx⟩ := ih hmem
        exact ⟨x, hR, List.mem_cons_of_mem _ hx⟩

/-- Something that stands at one place only is paired with one element only. -/
theorem zip_unique {α β : Type} {p : α → Bool} {xs : List α} {ys : List β}
    (h : (xs.filter p).Nodup) {x : α} {y y' : β} (hp : p x = true) (hy : (x, y) ∈ xs.zip ys)
    (hy' : (x, y') ∈ xs.zip ys) : y = y' := by
  induction xs generalizing ys with
  | nil => simp at hy
  | cons first rest ih =>
    cases ys with
    | nil => simp at hy
    | cons z zs =>
      rw [List.zip_cons_cons, List.mem_cons] at hy hy'
      have hrest : (rest.filter p).Nodup := h.sublist (List.Sublist.filter p (by simp))
      have hfirst : x = first → ∀ w, (x, w) ∉ rest.zip zs := by
        rintro rfl w hw
        rw [List.filter_cons_of_pos hp, List.nodup_cons] at h
        exact h.1 (List.mem_filter.mpr ⟨(List.of_mem_zip hw).1, hp⟩)
      rcases hy with heq | hy <;> rcases hy' with heq' | hy'
      · cases heq
        cases heq'
        rfl
      · cases heq
        exact absurd hy' (hfirst rfl y')
      · cases heq'
        exact absurd hy (hfirst rfl y)
      · exact ih hrest hy hy'

/-- Two members of a list with a common image are the same if the images do not repeat. -/
theorem eq_of_nodup_flatMap {α β : Type} {f : α → List β} {xs : List α}
    (h : (xs.flatMap f).Nodup) {x y : α} {z : β} (hx : x ∈ xs) (hy : y ∈ xs) (hzx : z ∈ f x)
    (hzy : z ∈ f y) : x = y := by
  induction xs with
  | nil => cases hx
  | cons first rest ih =>
    rw [List.flatMap_cons, List.nodup_append'] at h
    have hapart : ∀ w ∈ rest, z ∈ f first → z ∈ f w → False := fun w hw hfirst hzw =>
      h.2.2 hfirst (List.mem_flatMap.mpr ⟨w, hw, hzw⟩)
    rcases List.mem_cons.mp hx with rfl | hx' <;> rcases List.mem_cons.mp hy with rfl | hy'
    · rfl
    · exact (hapart y hy' hzx hzy).elim
    · exact (hapart x hx' hzy hzx).elim
    · exact ih h.2.1 hx' hy'

namespace Lowered

variable {catalogue : Catalogue} {sites : List Site} {checker : Checker}

theorem equates_of_assignment (h : Lowered catalogue sites checker) {target : Identifier}
    {value : Expr} (hsite : .assignment target value ∈ sites) :
    ∃ other targetSymbol otherSymbol statement,
      .equates (checker.table.var target) other targetSymbol otherSymbol statement ∈
        checker.relations ∧
      checker.table.Denotes checker.relations other value := by
  obtain ⟨relation, hmem, hstands⟩ := exists_left_of_forall₂ h.stands hsite
  cases relation with
  | equates _ other targetSymbol otherSymbol statement =>
    obtain ⟨rfl, _, hdenotes⟩ := hstands
    exact ⟨other, targetSymbol, otherSymbol, statement, hmem, hdenotes⟩
  | applies _ _ _ => exact hstands.elim

theorem applies_of_call (h : Lowered catalogue sites checker) {callee : Identifier}
    {args : List Expr} (hsite : .call callee args ∈ sites) :
    ∃ vars result, .applies (checker.table.var callee) vars result ∈ checker.relations ∧
      List.Forall₂ (checker.table.Denotes checker.relations) vars args := by
  obtain ⟨relation, hmem, hstands⟩ := exists_left_of_forall₂ h.stands hsite
  cases relation with
  | equates _ _ _ _ _ => exact hstands.elim
  | applies _ vars result =>
    obtain ⟨rfl, _, hargs⟩ := hstands
    exact ⟨vars, result, hmem, hargs⟩

theorem assignment_of_equates (h : Lowered catalogue sites checker) {target other : TypeVar}
    {targetSymbol otherSymbol : Symbol} {statement : Statement}
    (hmem : .equates target other targetSymbol otherSymbol statement ∈ checker.relations) :
    ∃ name value, .assignment name value ∈ sites ∧ target = checker.table.var name ∧
      name ∈ checker.table.names ∧ value.InScope checker.table ∧
      checker.table.Denotes checker.relations other value := by
  obtain ⟨site, hsite, hstands⟩ := exists_right_of_forall₂ h.stands hmem
  cases site with
  | call _ _ => exact hstands.elim
  | assignment name value =>
    obtain ⟨htarget, _, hdenotes⟩ := hstands
    obtain ⟨hname, hvalue⟩ := h.inScope _ hsite
    exact ⟨name, value, hsite, htarget, hname, hvalue, hdenotes⟩

theorem call_of_applies (h : Lowered catalogue sites checker) {callee result : TypeVar}
    {vars : List TypeVar} (hmem : .applies callee vars result ∈ checker.relations) :
    ∃ name args, .call name args ∈ sites ∧ callee = checker.table.var name ∧
      name ∈ checker.table.names ∧ checker.table.size ≤ result.index ∧
      List.Forall₂ (checker.table.Denotes checker.relations) vars args := by
  obtain ⟨site, hsite, hstands⟩ := exists_right_of_forall₂ h.stands hmem
  cases site with
  | call name args =>
    obtain ⟨hcallee, hresult, hargs⟩ := hstands
    have hname := (Expr.inScope_call.mp (h.inScope _ hsite)).1
    exact ⟨name, args, hsite, hcallee, hname, hresult, hargs⟩
  | assignment _ _ => exact hstands.elim

theorem result_unique (h : Lowered catalogue sites checker) {callee callee' result : TypeVar}
    {vars vars' : List TypeVar} (hmem : .applies callee vars result ∈ checker.relations)
    (hmem' : .applies callee' vars' result ∈ checker.relations) :
    callee = callee' ∧ vars = vars' := by
  have heq := eq_of_nodup_flatMap h.results hmem hmem' (List.mem_singleton_self result)
    (List.mem_singleton_self result)
  injection heq with hcallee hvars
  exact ⟨hcallee, hvars⟩

/-- A new variable is used by one relation only. -/
theorem use_unique (h : Lowered catalogue sites checker) {relation relation' : Relation}
    {v : TypeVar} (hnew : checker.table.size ≤ v.index) (hmem : relation ∈ checker.relations)
    (hmem' : relation' ∈ checker.relations) (hv : v ∈ relation.inputs)
    (hv' : v ∈ relation'.inputs) : relation = relation' := by
  have hinputs := h.inputs
  rw [List.filter_flatMap] at hinputs
  have hnew : decide ((checker.table.size : Int) ≤ v.index) = true := decide_eq_true hnew
  exact eq_of_nodup_flatMap hinputs hmem hmem' (List.mem_filter.mpr ⟨hv, hnew⟩)
    (List.mem_filter.mpr ⟨hv', hnew⟩)

/-- A new variable is an argument at one place only. -/
theorem argument_unique (h : Lowered catalogue sites checker) {callee result v : TypeVar}
    {vars : List TypeVar} {params : List Ty} {param param' : Ty}
    (hnew : checker.table.size ≤ v.index)
    (hmem : .applies callee vars result ∈ checker.relations)
    (hv : (v, param) ∈ vars.zip params) (hv' : (v, param') ∈ vars.zip params) :
    param = param' := by
  have hinputs := h.inputs
  rw [List.filter_flatMap] at hinputs
  have hvars : (vars.filter fun v => decide ((checker.table.size : Int) ≤ v.index)).Nodup :=
    (List.nodup_flatMap.mp hinputs).1 _ hmem
  exact zip_unique hvars (decide_eq_true hnew) hv hv'

theorem var_not_new {name : Identifier} (hname : name ∈ checker.table.names) :
    ¬ (checker.table.size : Int) ≤ (checker.table.var name).index := by
  have hlt := SymbolTable.var_lt hname
  omega

theorem denotes_old_of_ref {v : TypeVar} {value : Expr} (hold : ¬ checker.table.size ≤ v.index)
    (h : checker.table.Denotes checker.relations v value) :
    ∃ name, value = .ref name ∧ v = checker.table.var name := by
  cases value with
  | ref name => exact ⟨name, rfl, h⟩
  | call callee args => exact absurd h.1 hold
  | unsupported form => exact h.elim

theorem denotes_new_of_call {v : TypeVar} {value : Expr} (hscope : value.InScope checker.table)
    (hnew : checker.table.size ≤ v.index)
    (h : checker.table.Denotes checker.relations v value) :
    ∃ callee args vars, value = .call callee args ∧
      .applies (checker.table.var callee) vars v ∈ checker.relations ∧
      vars.length = args.length := by
  cases value with
  | ref name =>
    have hv : v = checker.table.var name := h
    subst hv
    exact absurd hnew (var_not_new (Expr.inScope_ref.mp hscope))
  | call callee args =>
    obtain ⟨_, vars, hmem, hlength⟩ := h
    exact ⟨callee, args, vars, rfl, hmem, hlength⟩
  | unsupported form => exact h.elim

theorem fact_of_known (h : Lowered catalogue sites checker) {name : Identifier} {ty : Ty}
    (hknown : Known catalogue sites name ty) : Fact checker (checker.table.var name) ty := by
  induction hknown with
  | builtin hentry =>
    have hmem := (h.builtins _ _).mpr hentry
    exact Fact.builtin hmem (Checker.varOf_eq hmem)
  | reference hsite _ ih =>
    obtain ⟨other, _, _, _, hmem, hother⟩ := h.equates_of_assignment hsite
    have heq : other = _ := hother
    rw [← heq] at ih
    exact Fact.equated hmem ih
  | returned hsite _ hlength ih =>
    obtain ⟨other, _, _, _, hmem, _, vars, hcall, hvars⟩ := h.equates_of_assignment hsite
    exact Fact.equated hmem (Fact.result hcall ih (by omega))
  | argument hsite _ hlength hpair ih =>
    obtain ⟨vars, result, hmem, hargs⟩ := h.applies_of_call hsite
    obtain ⟨v, hv, hzip⟩ := exists_zip_of_forall₂ hargs hpair
    have heq : v = _ := hv
    rw [heq] at hzip
    exact Fact.argument hmem ih (hlength.trans hargs.length_eq.symm) hzip

/-- The variables that a fact can be about: that of a name about which the type is known, the new
variable of a call that returns the type, and one that is an argument where the type is asked
for. -/
inductive Origin (catalogue : Catalogue) (sites : List Site) (checker : Checker) :
    TypeVar → Ty → Prop
  | name {name : Identifier} {ty : Ty} : name ∈ checker.table.names →
      Known catalogue sites name ty → Origin catalogue sites checker (checker.table.var name) ty
  | result {callee : Identifier} {vars : List TypeVar} {v : TypeVar} {params : List Ty}
      {out : Ty} : callee ∈ checker.table.names → checker.table.size ≤ v.index →
      .applies (checker.table.var callee) vars v ∈ checker.relations →
      Known catalogue sites callee (.fn params out) → params.length = vars.length →
      Origin catalogue sites checker v out
  | argument {callee : Identifier} {args : List Expr} {vars : List TypeVar}
      {result v : TypeVar} {params : List Ty} {out param : Ty} :
      callee ∈ checker.table.names → checker.table.size ≤ v.index →
      .call callee args ∈ sites →
      List.Forall₂ (checker.table.Denotes checker.relations) vars args →
      .applies (checker.table.var callee) vars result ∈ checker.relations →
      Known catalogue sites callee (.fn params out) → (v, param) ∈ vars.zip params →
      Origin catalogue sites checker v param

theorem Origin.known {name : Identifier} {ty : Ty} (hname : name ∈ checker.table.names)
    (h : Origin catalogue sites checker (checker.table.var name) ty) :
    Known catalogue sites name ty := by
  generalize hv : checker.table.var name = v at h
  cases h with
  | name hname' hknown =>
    rw [(SymbolTable.var_inj hname).mp hv]
    exact hknown
  | result _ hnew =>
    subst hv
    exact absurd hnew (var_not_new hname)
  | argument _ hnew =>
    subst hv
    exact absurd hnew (var_not_new hname)

/-- The value that an assignment uses has no other origin than the value itself. -/
theorem Origin.knownValue (h : Lowered catalogue sites checker) {v : TypeVar} {ty : Ty}
    (horigin : Origin catalogue sites checker v ty) {target : TypeVar}
    {targetSymbol otherSymbol : Symbol} {statement : Statement}
    (hmem : .equates target v targetSymbol otherSymbol statement ∈ checker.relations)
    {value : Expr} (hscope : value.InScope checker.table)
    (hdenotes : checker.table.Denotes checker.relations v value) :
    KnownValue catalogue sites value ty := by
  cases horigin with
  | name hname hknown =>
    obtain ⟨name', rfl, hvar⟩ := denotes_old_of_ref (var_not_new hname) hdenotes
    rw [(SymbolTable.var_inj hname).mp hvar] at hknown
    exact hknown
  | result hcallee hnew hcall hknown hlength =>
    obtain ⟨callee', args, vars', rfl, hcall', hvars⟩ := denotes_new_of_call hscope hnew hdenotes
    obtain ⟨hvar, rfl⟩ := h.result_unique hcall hcall'
    rw [(SymbolTable.var_inj hcallee).mp hvar] at hknown
    exact ⟨_, hknown, hlength.trans hvars⟩
  | argument _ hnew _ _ hcall _ hzip =>
    -- The call uses the new variable, so the assignment does not use it as well.
    have huse := h.use_unique hnew hmem hcall (List.mem_singleton_self v)
      (List.of_mem_zip hzip).1
    cases huse

theorem origin_of_argument (h : Lowered catalogue sites checker) {callee : Identifier}
    {args : List Expr} {vars : List TypeVar} {result v : TypeVar} {params : List Ty}
    {out param : Ty} (hcallee : callee ∈ checker.table.names) (hsite : .call callee args ∈ sites)
    (hargs : List.Forall₂ (checker.table.Denotes checker.relations) vars args)
    (hmem : .applies (checker.table.var callee) vars result ∈ checker.relations)
    (hknown : Known catalogue sites callee (.fn params out))
    (hlength : params.length = vars.length) (hpair : (v, param) ∈ vars.zip params) :
    Origin catalogue sites checker v param := by
  obtain ⟨expr, hdenotes, hzip⟩ := exists_zip_of_forall₂ hargs.flip hpair
  have hexpr := (Expr.inScope_call.mp (h.inScope _ hsite)).2 expr (List.of_mem_zip hzip).1
  by_cases hnew : (checker.table.size : Int) ≤ v.index
  · exact Origin.argument hcallee hnew hsite hargs hmem hknown hpair
  · obtain ⟨name, rfl, rfl⟩ := denotes_old_of_ref hnew hdenotes
    exact Origin.name (Expr.inScope_ref.mp hexpr)
      (Known.argument hsite hknown (hlength.trans hargs.length_eq) hzip)

theorem origin_of_fact (h : Lowered catalogue sites checker) {v : TypeVar} {ty : Ty}
    (hfact : Fact checker v ty) : Origin catalogue sites checker v ty := by
  induction hfact with
  | builtin hmem hvar =>
    rw [Checker.varOf_eq hmem] at hvar
    cases hvar
    refine Origin.name ?_ (Known.builtin ((h.builtins _ _).mp hmem))
    rw [SymbolTable.names_eq]
    exact List.mem_map_of_mem hmem
  | equated hmem _ ih =>
    obtain ⟨name, value, hsite, rfl, hname, hvalue, hdenotes⟩ := h.assignment_of_equates hmem
    exact Origin.name hname
      (known_of_assignment hsite (ih.knownValue h hmem hvalue hdenotes))
  | argument hmem _ hlength hpair ih =>
    obtain ⟨callee, args, hsite, rfl, hcallee, _, hargs⟩ := h.call_of_applies hmem
    exact h.origin_of_argument hcallee hsite hargs hmem (ih.known hcallee) hlength hpair
  | result hmem _ hlength ih =>
    obtain ⟨callee, args, hsite, rfl, hcallee, hresult, hargs⟩ := h.call_of_applies hmem
    exact Origin.result hcallee hresult hmem (ih.known hcallee) hlength

theorem fact_var_iff (h : Lowered catalogue sites checker) {name : Identifier} {ty : Ty}
    (hname : name ∈ checker.table.names) :
    Fact checker (checker.table.var name) ty ↔ Known catalogue sites name ty :=
  ⟨fun hfact => (h.origin_of_fact hfact).known hname, h.fact_of_known⟩

/-- Where a new variable is an argument, the call that it is the result of returns what is asked
for. -/
theorem result_eq_argument (h : Lowered catalogue sites checker) (hsound : Sound catalogue sites)
    {v : TypeVar} {inner callee : Identifier} {innerVars vars : List TypeVar}
    {args : List Expr} {innerParams params : List Ty} {innerOut out param : Ty}
    (hinnerName : inner ∈ checker.table.names) (hnew : checker.table.size ≤ v.index)
    (hinnerCall : .applies (checker.table.var inner) innerVars v ∈ checker.relations)
    (hinner : Known catalogue sites inner (.fn innerParams innerOut))
    (hsite : .call callee args ∈ sites)
    (hargs : List.Forall₂ (checker.table.Denotes checker.relations) vars args)
    (hcallee : Known catalogue sites callee (.fn params out))
    (hzip : (v, param) ∈ vars.zip params) : innerOut = param := by
  obtain ⟨expr, hdenotes, hpair⟩ := exists_zip_of_forall₂ hargs.flip hzip
  have hexpr := (Expr.inScope_call.mp (h.inScope _ hsite)).2 expr (List.of_mem_zip hpair).1
  obtain ⟨inner', innerArgs, vars', rfl, hcall', _⟩ := denotes_new_of_call hexpr hnew hdenotes
  obtain ⟨hvar, _⟩ := h.result_unique hinnerCall hcall'
  obtain rfl := (SymbolTable.var_inj hinnerName).mp hvar
  exact hsound.nested callee args params out inner innerArgs param innerParams innerOut hsite
    hcallee hpair hinner

theorem origin_unique (h : Lowered catalogue sites checker) (hsound : Sound catalogue sites)
    {v : TypeVar} {ty ty' : Ty} (horigin : Origin catalogue sites checker v ty)
    (horigin' : Origin catalogue sites checker v ty') : ty = ty' := by
  cases horigin with
  | name hname hknown => exact hsound.unique _ _ _ hknown (horigin'.known hname)
  | result hname hnew hcall hknown hlength =>
    cases horigin' with
    | name hname' _ => exact absurd hnew (var_not_new hname')
    | result hname' _ hcall' hknown' _ =>
      obtain ⟨hvar, _⟩ := h.result_unique hcall hcall'
      obtain rfl := (SymbolTable.var_inj hname).mp hvar
      have heq := hsound.unique _ _ _ hknown hknown'
      injection heq
    | argument _ _ hsite hargs _ hcallee hzip =>
      exact h.result_eq_argument hsound hname hnew hcall hknown hsite hargs hcallee hzip
  | argument hname hnew hsite hargs hcall hknown hzip =>
    cases horigin' with
    | name hname' _ => exact absurd hnew (var_not_new hname')
    | result hname' _ hcall' hknown' _ =>
      exact (h.result_eq_argument hsound hname' hnew hcall' hknown' hsite hargs hknown hzip).symm
    | argument hname' _ _ _ hcall' hknown' hzip' =>
      -- Only one relation uses a new variable, so both are the same argument of one call.
      have heq := h.use_unique hnew hcall hcall' (List.of_mem_zip hzip).1
        (List.of_mem_zip hzip').1
      injection heq with hvar hvars _
      obtain rfl := (SymbolTable.var_inj hname).mp hvar
      subst hvars
      have hfn := hsound.unique _ _ _ hknown hknown'
      injection hfn with hparams _
      subst hparams
      exact h.argument_unique hnew hcall hzip hzip'

/-- The facts of a run are consistent exactly if what its program says is sound. -/
theorem consistent_iff (h : Lowered catalogue sites checker) :
    Consistent checker ↔ Sound catalogue sites := by
  constructor
  · intro hconsistent
    have hcallable : ∀ callee args ty, .call callee args ∈ sites →
        Known catalogue sites callee ty →
        ∃ params out, ty = .fn params out ∧ params.length = args.length := by
      intro callee args ty hsite hknown
      obtain ⟨vars, result, hmem, hargs⟩ := h.applies_of_call hsite
      rw [← hargs.length_eq]
      exact hconsistent.callable _ _ _ _ hmem (h.fact_of_known hknown)
    refine ⟨?_, hcallable, ?_⟩
    · intro name ty ty' hty hty'
      exact hconsistent.unique _ _ _ (h.fact_of_known hty) (h.fact_of_known hty')
    · intro callee args params out inner innerArgs param innerParams innerOut hsite hcallee hpair
        hinner
      obtain ⟨vars, result, hmem, hargs⟩ := h.applies_of_call hsite
      obtain ⟨v, ⟨_, innerVars, hcall, _⟩, hzip⟩ := exists_zip_of_forall₂ hargs hpair
      have houter := hconsistent.callable _ _ _ _ hmem (h.fact_of_known hcallee)
      have hinnerFits := hconsistent.callable _ _ _ _ hcall (h.fact_of_known hinner)
      obtain ⟨_, _, heq, hlength⟩ := houter
      obtain ⟨_, _, hinnerEq, hinnerLength⟩ := hinnerFits
      cases heq
      cases hinnerEq
      exact hconsistent.unique v _ _ (Fact.result hcall (h.fact_of_known hinner) hinnerLength)
        (Fact.argument hmem (h.fact_of_known hcallee) hlength hzip)
  · intro hsound
    refine ⟨?_, ?_⟩
    · intro v ty ty' hty hty'
      exact h.origin_unique hsound (h.origin_of_fact hty) (h.origin_of_fact hty')
    · intro callee vars result ty hmem hfact
      obtain ⟨name, args, hsite, rfl, hname, _, hargs⟩ := h.call_of_applies hmem
      rw [hargs.length_eq]
      exact hsound.callable name args ty hsite ((h.fact_var_iff hname).mp hfact)

/-- A relation is blocked exactly if nothing is known about the name that its site waits for. -/
theorem blocked_iff (h : Lowered catalogue sites checker) (hconsistent : Consistent checker)
    {relation : Relation} {site : Site} (hmem : relation ∈ checker.relations)
    (hsite : site ∈ sites) (hstands : checker.table.Stands checker.relations relation site) :
    Blocked checker relation ↔ ∀ ty, ¬ Known catalogue sites site.head ty := by
  have hscope := h.inScope site hsite
  match relation, site with
  | .applies callee vars result, .call name args =>
    obtain ⟨rfl, _, _⟩ := hstands
    have hname := (Expr.inScope_call.mp hscope).1
    exact forall_congr' fun ty => not_congr (h.fact_var_iff hname)
  | .equates target other _ _ _, .assignment name value =>
    obtain ⟨_, _, hdenotes⟩ := hstands
    cases value with
    | ref name' =>
      have hother : other = _ := hdenotes
      subst hother
      exact forall_congr' fun ty => not_congr (h.fact_var_iff (Expr.inScope_ref.mp hscope.2))
    | call callee args =>
      constructor
      · intro hblocked ty hknown
        obtain ⟨_, vars, hcall, hlength⟩ := hdenotes
        obtain ⟨params, out, rfl, hfits⟩ :=
          hconsistent.callable _ _ _ _ hcall (h.fact_of_known hknown)
        exact hblocked out (Fact.result hcall (h.fact_of_known hknown) hfits)
      · intro hunknown ty hfact
        obtain ⟨params, hknown, _⟩ :=
          (h.origin_of_fact hfact).knownValue h hmem hscope.2 hdenotes
        exact hunknown _ hknown
    | unsupported form => exact hdenotes.elim
  | .applies .., .assignment .. => exact hstands.elim
  | .equates .., .call .. => exact hstands.elim

open Classical in
/-- There are as many blocked relations as sites that wait for a name about which nothing is
known. -/
theorem length_blockedRelations (h : Lowered catalogue sites checker)
    (hconsistent : Consistent checker) :
    (blockedRelations checker).length =
      (sites.filter fun site => decide (∀ ty, ¬ Known catalogue sites site.head ty)).length := by
  have hpairs : List.Forall₂ (fun relation site => Blocked checker relation ↔
      ∀ ty, ¬ Known catalogue sites site.head ty) checker.relations sites := by
    rw [List.forall₂_iff_zip]
    refine ⟨h.stands.length_eq, ?_⟩
    intro relation site hzip
    exact h.blocked_iff hconsistent (List.of_mem_zip hzip).1 (List.of_mem_zip hzip).2
      (List.forall₂_zip h.stands hzip)
  have hfilter := List.rel_filter (p := fun relation => decide (Blocked checker relation))
    (q := fun site => decide (∀ ty, ¬ Known catalogue sites site.head ty))
    (fun relation site hiff => by simpa using hiff) hpairs
  exact hfilter.length_eq

end Lowered

end Typeflow
