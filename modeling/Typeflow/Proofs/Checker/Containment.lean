import Typeflow.Proofs.Checker.Generation
import Typeflow.Proofs.Program.Schedule

/-!
The unresolvable mark in a run of the solver. Signatures may hold the mark anywhere. It reaches
the result of a call, but nothing that belongs to a name other than the signatures themselves, and
not the result of a call that is still to be resolved. If such a result is known already, an
enclosing call has given it the type of a parameter. Then the inner call has been passed over:
either its callee was not known, which is never true of a function, or it was stuck and stays so.
Hence a mismatch never shows the mark, except where a function whose signature holds it is
assigned to.
-/

namespace Typeflow

/-- The error is a mismatch of the types, or an assignment that failed because of one. -/
def InferenceError.Mismatches (error : InferenceError) (left right : Ty) : Prop :=
  error = .mismatch left right ∨
    ∃ target other targetType otherType statement,
      error = .conflicting target other targetType otherType statement (.mismatch left right)

/-- If the mark stands in a mismatch, a value was assigned to a function of the table whose
signature holds the mark. -/
def Failure.Attributed (failure : Failure) (table : SymbolTable) : Prop :=
  ∀ error left right, failure = .error error → error.Mismatches left right →
    left.mentionsUnresolvable = true ∨ right.mentionsUnresolvable = true →
    ∃ name signature other targetType otherType statement,
      error = .conflicting (.function name signature) other targetType otherType statement
        (.mismatch left right) ∧
      .function name signature ∈ table.symbols ∧ signature.toTy.mentionsUnresolvable = true

theorem Failure.Unmarked.attributed {failure : Failure} {table : SymbolTable}
    (h : failure.Unmarked) (hrefusal : Refusal failure) : failure.Attributed table := by
  intro error left right herror hmismatch hmark
  obtain ⟨cause, hcause, hkind⟩ := hrefusal
  rw [herror] at hcause
  cases hcause
  rcases hmismatch with hmismatch | ⟨_, _, _, _, _, hconflict⟩
  · obtain ⟨hleft, hright⟩ := h left right (by rw [herror, hmismatch])
    rw [hleft, hright] at hmark
    simp at hmark
  · rw [hconflict] at hkind
    simp [InferenceError.kind] at hkind

namespace Relation

variable {relation : Relation} {arena : Arena} {ty : Ty} {pairs : List (TypeVar × Ty)}

/-- The parameters of a callee that a call does not refuse are without the mark. -/
theorem params_unmarked {callee result : TypeVar} {args : List TypeVar} {params : List Ty}
    {out : Ty} (hentry : arena.entry callee = some (.fn params out))
    (hfree : ¬ (Relation.applies callee args result).Stuck arena) :
    ∀ p ∈ params, p.mentionsUnresolvable = false := by
  intro p hp
  cases hmark : p.mentionsUnresolvable with
  | false => rfl
  | true => exact absurd (Or.inl ⟨_, hentry, p, hp, hmark⟩) hfree

/-- A relation that is not stuck passes the mark on to the result of a call only. -/
theorem teaches_unmarked (hentry : arena.entry relation.waitsOn = some ty)
    (hfree : ¬ relation.Stuck arena) (h : relation.teaches ty = some pairs) :
    ∀ pair ∈ pairs, pair.2.mentionsUnresolvable = false ∨ pair.1 ∈ relation.results := by
  intro pair hpair
  cases relation with
  | equates target other _ _ _ =>
    cases h
    rw [List.mem_singleton.mp hpair]
    exact Or.inl (Classical.not_not.mp hfree ty hentry)
  | applies callee args result =>
    obtain ⟨params, out, rfl, _, rfl⟩ := teaches_applies.mp h
    rcases List.mem_append.mp hpair with hpair | hpair
    · exact Or.inl (params_unmarked hentry hfree _ (List.of_mem_zip hpair).2)
    · rw [List.mem_singleton.mp hpair]
      exact Or.inr List.mem_cons_self

/-- What a relation teaches is about a name, about what it uses or about what it takes. -/
theorem teaches_vars {table : SymbolTable} (hnamed : relation.Named table)
    (h : relation.teaches ty = some pairs) :
    ∀ pair ∈ pairs, pair.1.index < table.size ∨ pair.1 ∈ relation.inputs ∨
      pair.1 ∈ relation.results := by
  intro pair hpair
  cases relation with
  | equates target other _ _ _ =>
    cases h
    obtain ⟨name, hname, htarget, _⟩ := hnamed
    rw [List.mem_singleton.mp hpair, htarget]
    exact Or.inl (SymbolTable.var_lt hname)
  | applies callee args result =>
    obtain ⟨params, out, rfl, _, rfl⟩ := teaches_applies.mp h
    rcases List.mem_append.mp hpair with hpair | hpair
    · exact Or.inr (Or.inl (List.of_mem_zip hpair).1)
    · rw [List.mem_singleton.mp hpair]
      exact Or.inr (Or.inr List.mem_cons_self)

end Relation

/-- A relation that makes the result of another call known stands behind that call. -/
theorem SymbolTable.Orderly.before_of_teaches {table : SymbolTable} {before after : List Relation}
    {relation other : Relation} {ty : Ty} {pairs : List (TypeVar × Ty)} {pair : TypeVar × Ty}
    (h : table.Orderly (before ++ relation :: after))
    (hteaches : relation.teaches ty = some pairs) (hpair : pair ∈ pairs)
    (hother : other ∈ before ++ after) (hresult : pair.1 ∈ other.results) :
    other ∈ before := by
  have hself : relation ∈ before ++ relation :: after := by simp
  have hsub : (before ++ after).Sublist (before ++ relation :: after) :=
    (List.sublist_cons_self relation after).append_left before
  obtain ⟨hnot, hbefore⟩ := h.split hother hresult
  have hfresh := h.fresh other (hsub.subset hother) _ hresult
  rcases Relation.teaches_vars (h.named relation hself) hteaches pair hpair with
    hlt | hinput | htaken
  · omega
  · exact hbefore hinput
  · exact absurd htaken hnot

/-- What holds between two rounds of the solver, in terms of the relations that remain. Functions
are known by their signatures, and the mark does not stand in what is known about any other name.
Nor does it stand in what is known about the result of a remaining call; and if anything is known
about the result of a remaining call of a function, the call is stuck. -/
structure Contained (table : SymbolTable) (relations : List Relation) (arena : Arena) : Prop where
  closed : arena.Closed
  size_le : table.size ≤ arena.size
  owns : ∀ relation ∈ relations, ∀ v ∈ relation.vars, arena.Owns v
  orderly : table.Orderly relations
  seeded : ∀ name signature, .function name signature ∈ table.symbols →
    arena.entry (table.var name) = some signature.toTy
  clean : ∀ symbol ∈ table.symbols, (∀ name signature, symbol ≠ .function name signature) →
    arena.Clean (table.var symbol.name)
  results : ∀ relation ∈ relations, ∀ v ∈ relation.results, arena.Clean v
  stuck : ∀ name signature args result, .function name signature ∈ table.symbols →
    .applies (table.var name) args result ∈ relations → arena.entry result ≠ none →
    (Relation.applies (table.var name) args result).Stuck arena

namespace Contained

variable {table : SymbolTable} {relations before after : List Relation} {relation : Relation}
  {arena arena' : Arena} {ty : Ty} {pairs : List (TypeVar × Ty)} {failure : Failure}

theorem resolve
    (h : Contained table (before ++ relation :: after) arena)
    (hbefore : ∀ other ∈ before, other.Idle arena)
    (hentry : arena.entry relation.waitsOn = some ty) (hfree : ¬ relation.Stuck arena)
    (hteaches : relation.teaches ty = some pairs) (hlearned : arena.Learned pairs arena') :
    Contained table (before ++ after) arena' := by
  have hself : relation ∈ before ++ relation :: after := by simp
  have hsub : (before ++ after).Sublist (before ++ relation :: after) :=
    (List.sublist_cons_self relation after).append_left before
  have hunmarked := Relation.teaches_unmarked hentry hfree hteaches
  have hkept : ∀ {v u}, arena.entry v = some u → arena'.entry v = some u :=
    fun hu => (hlearned.entry_iff _ _).mpr (Or.inl hu)
  -- Outside the results of the relation only types without the mark are new.
  have hclean : ∀ v, arena.Clean v → v ∉ relation.results → arena'.Clean v := by
    intro v hv hnot u hu
    rcases (hlearned.entry_iff v u).mp hu with hold | hpair
    · exact hv u hold
    · exact (hunmarked _ hpair).resolve_right hnot
  refine ⟨?_, ?_, ?_, h.orderly.sublist hsub, ?_, ?_, ?_, ?_⟩
  · exact hlearned.closed h.closed (Relation.teaches_closed (h.closed _ _ hentry) hteaches)
  · rw [hlearned.size_eq]
    exact h.size_le
  · intro other hother v hv
    exact hlearned.owns.mpr (h.owns other (hsub.subset hother) v hv)
  · exact fun name signature hsymbol => hkept (h.seeded name signature hsymbol)
  · intro symbol hsymbol hother
    refine hclean _ (h.clean symbol hsymbol hother) fun hresult => ?_
    have hfresh := h.orderly.fresh relation hself _ hresult
    have hlt := SymbolTable.var_lt (SymbolTable.name_mem hsymbol)
    omega
  · intro other hother v hv
    exact hclean v (h.results other (hsub.subset hother) v hv) (h.orderly.split hother hv).1
  · intro name signature args result hsymbol hother hknown
    by_cases hold : arena.entry result = none
    · -- The result became known just now, so the call stands before the relation and is idle.
      obtain ⟨u, hu⟩ := Option.ne_none_iff_exists'.mp hknown
      have hpair := ((hlearned.entry_iff result u).mp hu).resolve_left (by rw [hold]; simp)
      have hmem := h.orderly.before_of_teaches hteaches hpair hother List.mem_cons_self
      rcases hbefore _ hmem with hunbound | hstuck
      · rw [Relation.waitsOn, h.seeded name signature hsymbol] at hunbound
        cases hunbound
      · exact hstuck.learned hlearned
    · have hstuck := h.stuck name signature args result hsymbol (hsub.subset hother) hold
      exact hstuck.learned hlearned

theorem function_of_marked (h : Contained table relations arena)
    {name : Identifier} (hname : name ∈ table.names) {known : Ty}
    (hentry : arena.entry (table.var name) = some known)
    (hmark : known.mentionsUnresolvable = true) :
    ∃ signature, table.symbolOf name = .function name signature ∧
      .function name signature ∈ table.symbols ∧ known = signature.toTy := by
  obtain ⟨hmem, hsymbol⟩ := SymbolTable.symbolOf_mem hname
  cases hcases : table.symbolOf name with
  | function name' signature =>
    rw [hcases] at hmem hsymbol
    obtain rfl : name' = name := hsymbol
    rw [h.seeded name' signature hmem] at hentry
    exact ⟨signature, rfl, hmem, (Option.some.inj hentry).symm⟩
  | _ =>
    have hclean := h.clean _ hmem (by simp [hcases])
    rw [hsymbol] at hclean
    rw [hclean known hentry] at hmark
    cases hmark

/-- A call that cannot be resolved reports types without the mark. -/
theorem discord_unmarked (h : Contained table relations arena)
    {callee result : TypeVar} {args : List TypeVar} {params : List Ty} {out : Ty}
    (hmem : .applies callee args result ∈ relations)
    (hentry : arena.entry callee = some (.fn params out))
    (hfree : ¬ (Relation.applies callee args result).Stuck arena)
    (hdiscord : arena.Discord (args.zip params ++ [(result, out)]) failure) :
    failure.Unmarked := by
  have hparams := Relation.params_unmarked hentry hfree
  have hargs : ∀ arg ∈ args, arena.Clean arg := by
    intro arg harg
    by_contra hmark
    exact hfree (Or.inr ⟨arg, harg, hmark⟩)
  have hresult : result ∈ (Relation.applies callee args result).results := List.mem_cons_self
  obtain ⟨earlier, v, ty, later, known, hpairs, hsays, hdiffer⟩ := hdiscord
  rcases List.eq_nil_or_concat later with rfl | ⟨later, last, rfl⟩
  · -- The result is known by the type of a parameter of an enclosing call.
    obtain ⟨rfl, hlast⟩ := List.append_inj' hpairs rfl
    cases hlast
    have hknown : arena.entry result = some known := by
      refine hsays.resolve_right fun hpair => ?_
      exact h.orderly.own _ hmem result hresult (List.of_mem_zip hpair).1
    refine hdiffer.unmarked (h.results _ hmem result hresult known hknown) ?_
    cases hmark : out.mentionsUnresolvable with
    | false => rfl
    | true =>
      obtain ⟨name, hname, rfl⟩ := h.orderly.named _ hmem
      have hmark' : (Ty.fn params out).mentionsUnresolvable = true := by
        simp [Ty.mentionsUnresolvable, hmark]
      obtain ⟨signature, _, hsymbol, _⟩ := h.function_of_marked hname hentry hmark'
      exact absurd (h.stuck name signature args result hsymbol hmem (by simp [hknown])) hfree
  · -- An argument is known by something else than the type of its parameter.
    have hzip : args.zip params = earlier ++ (v, ty) :: later := by
      rw [List.concat_eq_append, ← List.cons_append, ← List.append_assoc] at hpairs
      exact (List.append_inj' hpairs rfl).1
    have hpair : ∀ {w u}, (w, u) ∈ args.zip params → u.mentionsUnresolvable = false :=
      fun hpair => hparams _ (List.of_mem_zip hpair).2
    have hv : (v, ty) ∈ args.zip params := by simp [hzip]
    refine hdiffer.unmarked ?_ (hpair hv)
    rcases hsays with hknown | hearlier
    · exact hargs v (List.of_mem_zip hv).1 known hknown
    · exact hpair (hzip ▸ List.mem_append_left _ hearlier)

/-- A failed attempt shows the mark only if a value is assigned to a function whose signature
holds it. -/
theorem fails (h : Contained table relations arena)
    (hmem : relation ∈ relations) (hfails : relation.Fails arena failure) :
    failure.Attributed table := by
  obtain ⟨ty, hentry, hfree, hcause⟩ := hfails
  cases relation with
  | equates target other targetSymbol otherSymbol statement =>
    obtain ⟨known, cause, htarget, hdiffer, rfl⟩ := hcause
    obtain ⟨name, hname, rfl, rfl⟩ := h.orderly.named _ hmem
    have hty : ty.mentionsUnresolvable = false := Classical.not_not.mp hfree ty hentry
    intro error left right herror hmismatch hmark
    cases herror
    obtain rfl : cause = .mismatch left right := by
      rcases hmismatch with hmismatch | ⟨_, _, _, _, _, hconflict⟩
      · cases hmismatch
      · cases hconflict
        rfl
    cases hknown : known.mentionsUnresolvable with
    | false =>
      obtain ⟨hleft, hright⟩ := hdiffer.unmarked hknown hty left right rfl
      rw [hleft, hright] at hmark
      simp at hmark
    | true =>
      obtain ⟨signature, hsymbol, hfunction, rfl⟩ :=
        h.function_of_marked hname htarget hknown
      exact ⟨name, signature, _, _, _, _, by rw [hsymbol], hfunction, hknown⟩
  | applies callee args result =>
    rcases hcause with ⟨_, hrefusal, hunmarked⟩ | ⟨pairs, hteaches, hdiscord⟩
    · exact (hunmarked (h.results _ hmem result List.mem_cons_self)).attributed hrefusal
    · obtain ⟨params, out, rfl, _, rfl⟩ := Relation.teaches_applies.mp hteaches
      have hrefusal : Refusal failure := by
        obtain ⟨_, _, _, _, _, _, _, hdiffer⟩ := hdiscord
        exact hdiffer.refusal
      exact (h.discord_unmarked hmem hentry hfree hdiscord).attributed hrefusal

theorem invariant :
    CheckerM.Invariant (Contained table) fun failure => failure.Attributed table where
  closed := fun h => h.closed
  owns := fun h => h.owns
  step := fun h hbefore hentry hfree hteaches hlearned =>
    h.resolve hbefore hentry hfree hteaches hlearned
  fails := fun h hmem hfails => h.fails hmem hfails

end Contained

/-- What holds while the functions are bound: of the symbols that are not left the functions are
known by their signatures, and nothing else is known. -/
structure Seeded (table : SymbolTable) (size : Nat) (left : List Symbol) (arena : Arena) :
    Prop where
  size_eq : arena.size = size
  entry_iff : ∃ done, table.symbols = done ++ left ∧
    ∀ v ty, arena.entry v = some ty ↔ ∃ name signature, .function name signature ∈ done ∧
      v = table.var name ∧ ty = signature.toTy

section Seeding

variable {checker : Checker} {table : SymbolTable} {relations : List Relation} {arena : Arena}
 
  (hsignatures : ∀ name signature, .function name signature ∈ table.symbols →
    signature.toTy.Closed)
include hsignatures

/-- No name stands twice in the table, so a function finds its variable unbound. -/
theorem CheckerM.bindFunction_seeds {bad : Failure → Checker → Prop} {size : Nat}
    {symbol : Symbol} {rest : List Symbol} (hsize : table.size ≤ size)
    (hseeded : Seeded table size (symbol :: rest) arena) (hc : checker.At table relations arena) :
    Ends (bindFunction symbol) checker
      (fun _ c' => ∃ arena', Seeded table size rest arena' ∧ c'.At table relations arena')
      bad := by
  obtain ⟨rfl, done, hsymbols, hentries⟩ := hseeded
  have hsplit : table.symbols = (done ++ [symbol]) ++ rest := by simp [hsymbols]
  cases symbol with
  | function name signature =>
    have hmem : .function name signature ∈ table.symbols := by simp [hsymbols]
    have hname : name ∈ table.names := SymbolTable.name_mem hmem
    have hunbound : arena.entry (table.var name) = none := by
      have hnodup := SymbolTable.nodup_names table
      rw [SymbolTable.names_eq, hsymbols, List.map_append, List.map_cons] at hnodup
      refine Option.eq_none_iff_forall_ne_some.mpr fun ty hty => ?_
      obtain ⟨name', signature', hdone, hvar, _⟩ := (hentries _ _).mp hty
      obtain rfl := (SymbolTable.var_inj hname).mp hvar
      exact (List.nodup_append.mp hnodup).2.2 _ (List.mem_map_of_mem hdone) _
        List.mem_cons_self rfl
    have howns : arena.Owns (table.var name) := by
      have hlt := SymbolTable.var_lt hname
      exact ⟨Int.natCast_nonneg _, by omega⟩
    have hclosed : arena.Closed := by
      intro v ty hty
      obtain ⟨name', signature', hdone, _, rfl⟩ := (hentries v ty).mp hty
      exact hsignatures name' signature' (by simp [hsymbols, hdone])
    have hvar : varOf (.function name signature) checker = .ok (table.var name) checker := by
      obtain ⟨_, rfl, _⟩ := hc
      exact varOf_eq (Checker.varOf_eq hmem)
    refine Ends.bind_of_ok hvar ?_
    refine (learns_at hc (Unifier.unify_var hc.session hclosed howns
      (hsignatures name signature hmem))).mono ?_ ?_
    · intro _ c' h
      obtain ⟨arena', hlearned, hc'⟩ := h
      refine ⟨arena', ⟨hlearned.size_eq, _, hsplit, fun v ty => ?_⟩, hc'⟩
      rw [hlearned.entry_iff, Arena.Says, hentries]
      constructor
      · intro h
        rcases h with ⟨name', signature', hdone, hv, hty⟩ | hpair
        · exact ⟨name', signature', List.mem_append_left _ hdone, hv, hty⟩
        · cases List.mem_singleton.mp hpair
          exact ⟨name, signature, by simp, rfl, rfl⟩
      · intro h
        obtain ⟨name', signature', hdone, rfl, rfl⟩ := h
        rcases List.mem_append.mp hdone with hdone | hlast
        · exact Or.inl ⟨name', signature', hdone, rfl, rfl⟩
        · cases List.mem_singleton.mp hlast
          exact Or.inr List.mem_cons_self
    · intro failure _ hdiscord
      obtain ⟨known, hknown, _⟩ := Arena.discord_singleton.mp hdiscord
      rw [hunbound] at hknown
      cases hknown
  | _ =>
    refine Ends.pure ⟨arena, ⟨rfl, _, hsplit, fun v ty => ?_⟩, hc⟩
    rw [hentries]
    simp

/-- The mark is contained once the functions are bound and nothing else is known. -/
theorem Seeded.contained (h : Seeded table arena.size [] arena) (hsize : table.size ≤ arena.size)
    (howns : ∀ relation ∈ relations, ∀ v ∈ relation.vars, arena.Owns v)
    (horderly : table.Orderly relations) : Contained table relations arena := by
  obtain ⟨_, done, hsymbols, hentries⟩ := h
  rw [List.append_nil] at hsymbols
  subst hsymbols
  have hunbound : ∀ relation ∈ relations, ∀ v ∈ relation.results, arena.entry v = none := by
    intro relation hrelation v hv
    refine Option.eq_none_iff_forall_ne_some.mpr fun ty hty => ?_
    obtain ⟨name, signature, hfunction, rfl, _⟩ := (hentries v ty).mp hty
    have hlt : (table.var name).index < table.size :=
      SymbolTable.var_lt (SymbolTable.name_mem hfunction)
    have hfresh := horderly.fresh relation hrelation _ hv
    omega
  refine ⟨?_, hsize, howns, horderly, ?_, ?_, ?_, ?_⟩
  · intro v ty hty
    obtain ⟨name, signature, hfunction, _, rfl⟩ := (hentries v ty).mp hty
    exact hsignatures name signature hfunction
  · exact fun name signature hfunction =>
      (hentries _ _).mpr ⟨name, signature, hfunction, rfl, rfl⟩
  · intro symbol hsymbol hother ty hty
    obtain ⟨name, signature, hfunction, hvar, _⟩ := (hentries _ _).mp hty
    have hname := (SymbolTable.var_inj (SymbolTable.name_mem hsymbol)).mp hvar
    exact absurd (SymbolTable.eq_of_name_eq hsymbol hfunction hname) (hother name signature)
  · intro relation hrelation v hv ty hty
    rw [hunbound relation hrelation v hv] at hty
    cases hty
  · intro name signature args result _ hmem hknown
    exact absurd (hunbound _ hmem result List.mem_cons_self) hknown

theorem CheckerM.solve_contained (hunbound : ∀ v, arena.entry v = none)
    (hsize : table.size ≤ arena.size)
    (howns : ∀ relation ∈ relations, ∀ v ∈ relation.vars, arena.Owns v)
    (horderly : table.Orderly relations) (hc : checker.At table relations arena) :
    Ends solve checker
      (fun _ c' => ∃ rest arena', Contained table rest arena' ∧ c'.At table rest arena')
      fun failure _ => failure.Attributed table := by
  refine (solve_ends_of_seeded (Contained.invariant) hc fun c hc => ?_).mono ?_
    fun _ _ h => h
  · have hstart : Seeded table arena.size table.symbols arena :=
      ⟨rfl, [], rfl, by simp [hunbound]⟩
    refine (Ends.forM
      (fun left c => ∃ arena', Seeded table arena.size left arena' ∧ c.At table relations arena')
      (fun symbol rest c ⟨arena', hseeded, hc⟩ =>
        bindFunction_seeds hsignatures hsize hseeded hc)
      table.symbols c ⟨arena, hstart, hc⟩).mono ?_ fun _ _ h => h
    intro _ c' h
    obtain ⟨arena', hseeded, hc'⟩ := h
    have hsame := hseeded.size_eq
    refine ⟨arena', Seeded.contained hsignatures (hsame ▸ hseeded) (hsame ▸ hsize) ?_
      horderly, hc'⟩
    intro relation hrelation v hv
    have hv' := howns relation hrelation v hv
    unfold Arena.Owns at hv' ⊢
    rw [hsame]
    exact hv'
  · intro _ c' h
    obtain ⟨rest, arena', hcontained, hc', _⟩ := h
    exact ⟨rest, arena', hcontained, hc'⟩

end Seeding

end Typeflow
