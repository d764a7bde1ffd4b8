import Mathlib.Data.List.Induction
import Typeflow.Proofs.Program.Order

/-!
The symbols of a program. Its names are those that it declares, in the order of the statements,
and then those of the catalogue, in the order of their bytes. They make up a table exactly if none
of them stands twice. Otherwise the first one that stands there again is reported, with the symbol
that has the name already. It does not matter in which order a catalogue was built from distinct
names.
-/

namespace Typeflow

/-- Where something is repeated, there is a first place at which something stands again. -/
theorem exists_first_repeated {α β : Type} {f : α → β} {xs : List α} (h : ¬ (xs.map f).Nodup) :
    ∃ before x rest, xs = before ++ x :: rest ∧ (before.map f).Nodup ∧ f x ∈ before.map f := by
  induction xs using List.reverseRecOn with
  | nil => exact absurd List.nodup_nil h
  | append_singleton init last ih =>
    by_cases hinit : (init.map f).Nodup
    -- Nothing is repeated before the last place, so it is the last one that stands there again.
    · refine ⟨init, last, [], rfl, hinit, ?_⟩
      by_contra hlast
      rw [List.map_append, List.map_singleton, List.nodup_append_comm] at h
      exact h (List.nodup_cons.mpr ⟨hlast, hinit⟩)
    · obtain ⟨before, x, rest, rfl, hnodup, hx⟩ := ih hinit
      exact ⟨before, x, rest ++ [last], by simp, hnodup, hx⟩

namespace SymbolTable

variable {table : SymbolTable} {earlier later : Symbol}

theorem ofSymbols_of_repeated {before rest : List Symbol}
    (hnodup : (before.map Symbol.name).Nodup) (hearlier : earlier ∈ before)
    (hname : earlier.name = later.name) :
    ofSymbols (before ++ later :: rest) = .error (.duplicate earlier later) := by
  obtain ⟨table, htable⟩ := exists_ofSymbols_iff.mpr hnodup
  obtain rfl := symbols_of_ofSymbols htable
  have hdefine : table.define later = .error (.duplicate earlier later) :=
    define_of_taken (SymbolTable.lookup?_eq_some_iff.mpr ⟨hearlier, hname⟩)
  unfold ofSymbols at htable ⊢
  rw [List.foldlM_append, htable]
  change (later :: rest).foldlM define table = _
  rw [List.foldlM_cons, hdefine]
  rfl

/-- If a name stands twice, the symbol at the first place where one stands again is refused. -/
theorem ofSymbols_of_not_nodup {symbols : List Symbol} (h : ¬ (symbols.map Symbol.name).Nodup) :
    ∃ (i j : Nat) (earlier later : Symbol), i < j ∧ ((symbols.map Symbol.name).take j).Nodup ∧
      symbols[i]? = some earlier ∧ symbols[j]? = some later ∧ earlier.name = later.name ∧
      ofSymbols symbols = .error (.duplicate earlier later) := by
  obtain ⟨before, later, rest, rfl, hnodup, hlater⟩ := exists_first_repeated h
  obtain ⟨earlier, hearlier, hname⟩ := List.mem_map.mp hlater
  obtain ⟨i, hi, hget⟩ := List.getElem_of_mem hearlier
  refine ⟨i, before.length, earlier, later, hi, ?_, ?_, ?_, hname,
    ofSymbols_of_repeated hnodup hearlier hname⟩
  · rw [← List.map_take, List.take_left]
    exact hnodup
  · rw [List.getElem?_append_left hi, List.getElem?_eq_getElem hi, hget]
  · simp

theorem lookup?_of_ofSymbols {symbols : List Symbol} (h : ofSymbols symbols = .ok table)
    {symbol : Symbol} (hmem : symbol ∈ symbols) : table.lookup? symbol.name = some symbol := by
  obtain rfl := symbols_of_ofSymbols h
  exact SymbolTable.lookup?_eq_some_iff.mpr ⟨hmem, rfl⟩

theorem names_of_ofSymbols {symbols : List Symbol} (h : ofSymbols symbols = .ok table) :
    table.names = symbols.map Symbol.name := by
  obtain rfl := symbols_of_ofSymbols h
  exact table.names_eq

end SymbolTable

section Resolving

variable {stmts : List Statement} {ds : List Declaration} {catalogue : Catalogue} {trace : Trace}

theorem names_declaredSymbols (ds : List Declaration) (catalogue : Catalogue) :
    (declaredSymbols ds catalogue).map Symbol.name = ds.map (·.name) ++ catalogue.names := by
  simp [declaredSymbols, ← catalogue.keys_functions, Function.comp_def, Symbol.name]

theorem exists_resolveSymbols_iff (hdeclarations : declarations stmts = .ok ds)
    (htrace : trace.Accepting) :
    (∃ table after, resolveSymbols stmts catalogue trace = .ok table after) ↔
      ((declaredSymbols ds catalogue).map Symbol.name).Nodup := by
  have hresolve : Ends (resolveSymbols stmts catalogue) trace _ _ :=
    resolveSymbols_accepting hdeclarations htrace
  cases hrun : resolveSymbols stmts catalogue trace with
  | ok table after =>
    have htable := (hresolve.good_of_eq hrun).1
    exact iff_of_true ⟨table, after, rfl⟩ (SymbolTable.exists_ofSymbols_iff.mp ⟨table, htable⟩)
  | error failure after =>
    refine iff_of_false ?_ (hresolve.bad_of_eq hrun).2
    rintro ⟨_, _, hok⟩
    cases hok

theorem resolveSymbols_of_error {error : InferenceError}
    (hdeclarations : declarations stmts = .ok ds)
    (h : SymbolTable.ofSymbols (declaredSymbols ds catalogue) = .error error) :
    resolveSymbols stmts catalogue trace = .error (.error error) trace := by
  unfold resolveSymbols
  rw [hdeclarations]
  dsimp only
  rw [h]
  rfl

theorem resolveSymbols_eq_of_perm {catalogue' : Catalogue}
    (hperm : catalogue.entries.Perm catalogue'.entries) :
    resolveSymbols stmts catalogue trace = resolveSymbols stmts catalogue' trace := by
  have hsymbols : ∀ ds, declaredSymbols ds catalogue = declaredSymbols ds catalogue' := by
    intro ds
    unfold declaredSymbols
    rw [Catalogue.functions_eq_of_perm hperm]
  unfold resolveSymbols
  simp only [hsymbols]

/-- Resolving the symbols of declarations and assignments, with a trace that accepts all writes.
The names are those of the declarations, in order, and then those of the catalogue, in increasing
order of their bytes. There is a table exactly if no name stands twice. It has one symbol for each
name, in order, under that name, and nothing under any other. If a name stands twice, the first
symbol that repeats a name is reported together with the one that has it. The order in which a
catalogue holds its definitions does not matter, and definitions of distinct names may be made in
any order. -/
theorem resolveSymbols_follows_names (hknown : ∀ statement ∈ stmts, statement.isKnown = true)
    (htrace : trace.Accepting) :
    (∀ catalogue : Catalogue,
      let declared := stmts.filterMap Statement.declared?
      let names := declared.map (·.name) ++ catalogue.names
      let symbols := declared.map Symbol.variable ++
        catalogue.functions.map fun entry => Symbol.function entry.1 entry.2
      catalogue.functions.Perm catalogue.entries ∧
      catalogue.names.Pairwise (fun a b => a.text < b.text) ∧
      symbols.map Symbol.name = names ∧
      ((∃ table after, resolveSymbols stmts catalogue trace = .ok table after) ↔ names.Nodup) ∧
      (∀ table after, resolveSymbols stmts catalogue trace = .ok table after →
        table.symbols = symbols ∧
        (∀ (i : Nat) name symbol, names[i]? = some name → symbols[i]? = some symbol →
          table.lookup? name = some symbol) ∧
        ∀ name, name ∉ names → table.lookup? name = none) ∧
      (¬ names.Nodup → ∃ (i j : Nat) (earlier later : Symbol), i < j ∧ (names.take j).Nodup ∧
        symbols[i]? = some earlier ∧ symbols[j]? = some later ∧ earlier.name = later.name ∧
        resolveSymbols stmts catalogue trace =
          .error (.error (.duplicate earlier later)) trace)) ∧
    (∀ catalogue catalogue' : Catalogue, catalogue.entries.Perm catalogue'.entries →
      resolveSymbols stmts catalogue trace = resolveSymbols stmts catalogue' trace) ∧
    ∀ definitions : List (Identifier × Signature), (definitions.map (·.1)).Nodup →
      (Catalogue.ofList definitions).entries.Perm definitions ∧
      ∀ definitions', definitions.Perm definitions' →
        resolveSymbols stmts (.ofList definitions) trace =
          resolveSymbols stmts (.ofList definitions') trace := by
  have hdeclarations := declarations_eq hknown
  refine ⟨?_, fun _ _ => resolveSymbols_eq_of_perm, ?_⟩
  · intro catalogue declared names symbols
    have hnames : symbols.map Symbol.name = names := names_declaredSymbols declared catalogue
    have hiff : (∃ table after, resolveSymbols stmts catalogue trace = .ok table after) ↔
        names.Nodup := by
      rw [exists_resolveSymbols_iff hdeclarations htrace, names_declaredSymbols]
    refine ⟨catalogue.functions_perm, catalogue.names_pairwise, hnames, hiff, ?_, ?_⟩
    · intro table after hrun
      have hresolve : Ends (resolveSymbols stmts catalogue) trace _ _ :=
        resolveSymbols_accepting hdeclarations htrace
      have htable := (hresolve.good_of_eq hrun).1
      refine ⟨SymbolTable.symbols_of_ofSymbols htable, ?_, ?_⟩
      · intro i name symbol hname hsymbol
        rw [← hnames, List.getElem?_map, hsymbol] at hname
        rw [← Option.some.inj hname]
        exact SymbolTable.lookup?_of_ofSymbols htable (List.mem_of_getElem? hsymbol)
      · intro name hname
        rw [SymbolTable.lookup?_eq_none_iff, SymbolTable.names_of_ofSymbols htable,
          names_declaredSymbols]
        exact hname
    · intro hrepeated
      rw [← hnames] at hrepeated ⊢
      obtain ⟨i, j, earlier, later, hlt, hnodup, hearlier, hlater, hname, herror⟩ :=
        SymbolTable.ofSymbols_of_not_nodup hrepeated
      exact ⟨i, j, earlier, later, hlt, hnodup, hearlier, hlater, hname,
        resolveSymbols_of_error hdeclarations herror⟩
  · intro definitions hnodup
    have hentries : (Catalogue.ofList definitions).entries = definitions :=
      Dictionary.entries_ofList hnodup
    refine ⟨List.Perm.of_eq hentries, fun definitions' hperm => resolveSymbols_eq_of_perm ?_⟩
    have hentries' : (Catalogue.ofList definitions').entries = definitions' :=
      Dictionary.entries_ofList ((hperm.map _).nodup_iff.mp hnodup)
    rw [hentries, hentries']
    exact hperm

/-- `b = f(); var b; var a = b;` has a table with `f` and `g`, in whatever order these two are
defined. With `g`, `b` and `a` as built-in names it has none, and `a` is reported: it comes before
`b` there. -/
theorem resolveSymbols_follows_names_up_to_collision :
    let a : Identifier := ⟨[97]⟩
    let b : Identifier := ⟨[98]⟩
    let f : Identifier := ⟨[102]⟩
    let g : Identifier := ⟨[103]⟩
    let signature : Signature := ⟨[], .name ⟨[105]⟩⟩
    let stmts : List Statement :=
      [.assign b (.call f []), .declare ⟨b, none⟩, .declare ⟨a, some (.ref b)⟩]
    let catalogue := Catalogue.ofList [(g, signature), (f, signature)]
    let colliding := Catalogue.ofList [(g, signature), (b, signature), (a, signature)]
    (∀ statement ∈ stmts, statement.isKnown = true) ∧
    (∃ table after, resolveSymbols stmts catalogue Trace.off = .ok table after ∧
      table.symbols = [.variable ⟨b, none⟩, .variable ⟨a, some (.ref b)⟩, .function f signature,
        .function g signature] ∧
      table.lookup? g = some (.function g signature) ∧ table.lookup? ⟨[120]⟩ = none) ∧
    resolveSymbols stmts catalogue Trace.off =
      resolveSymbols stmts (.ofList [(f, signature), (g, signature)]) Trace.off ∧
    ∃ i j : Nat, i < j ∧ (([b, a] ++ colliding.names).take j).Nodup ∧
      ([b, a] ++ colliding.names)[j]? = some a ∧
      resolveSymbols stmts colliding Trace.off = .error (.error
        (.duplicate (.variable ⟨a, some (.ref b)⟩) (.function a signature))) Trace.off := by
  intro a b f g signature stmts catalogue colliding
  have hknown : ∀ statement ∈ stmts, statement.isKnown = true := by decide
  obtain ⟨hresolve, _, hbuilt⟩ := resolveSymbols_follows_names hknown Trace.off_accepting
  obtain ⟨_, _, _, hsucceeds, htable, _⟩ := hresolve catalogue
  obtain ⟨table, after, hrun⟩ := hsucceeds.mpr (by decide)
  obtain ⟨hsymbols, hlookup, hother⟩ := htable table after hrun
  obtain ⟨_, _, hnames, _, _, hfails⟩ := hresolve colliding
  obtain ⟨i, j, earlier, later, hlt, hnodup, _, hlater, _, herror⟩ := hfails (by decide)
  have hreported : resolveSymbols stmts colliding Trace.off = .error (.error
      (.duplicate (.variable ⟨a, some (.ref b)⟩) (.function a signature))) Trace.off := by rfl
  rw [hreported] at herror
  cases herror
  have hplace : ([b, a] ++ colliding.names)[j]? = some a := by
    have hall : _ = [b, a] ++ colliding.names := hnames
    rw [← hall, List.getElem?_map, hlater]
    rfl
  exact ⟨hknown, ⟨table, after, hrun, hsymbols, hlookup 3 g _ rfl rfl, hother _ (by decide)⟩,
    (hbuilt _ (by decide)).2 _ (List.Perm.swap ..), i, j, hlt, hnodup, hplace, hreported⟩

end Resolving

end Typeflow
