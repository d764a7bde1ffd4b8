import Typeflow.Checker.Basic
import Typeflow.Proofs.OrderedMap
import Typeflow.Proofs.Session

/-!
Tables as they are built: a name denotes at most one symbol, which goes by that name. A table is
built from symbols exactly when their names differ, and then it holds them in order.
-/

namespace Typeflow

namespace SymbolTable

variable {table : SymbolTable} {name : Identifier} {symbol : Symbol}

/-- The variable of the symbol with a name: the place of the name. -/
def var (table : SymbolTable) (name : Identifier) : TypeVar := ⟨(table.names.idxOf name : Nat)⟩

/-- The symbol with a name, and an undeclared one if the name is not in the table. -/
def symbolOf (table : SymbolTable) (name : Identifier) : Symbol :=
  (table.lookup? name).getD (.undeclared name)

theorem size_eq_length_names (table : SymbolTable) : table.size = table.names.length := rfl

theorem length_symbols (table : SymbolTable) : table.symbols.length = table.size := by
  simp [symbols, size, OrderedMap.values, OrderedMap.size]

theorem nodup_names (table : SymbolTable) : table.names.Nodup := table.coherent.nodup

theorem mem_names_iff : name ∈ table.names ↔ ∃ symbol, table.lookup? name = some symbol :=
  (table.coherent.mem_keys_iff name).trans Option.isSome_iff_exists

theorem lookup?_eq_none_iff : table.lookup? name = none ↔ name ∉ table.names := by
  rw [mem_names_iff, ← Option.isSome_iff_exists, Option.not_isSome_iff_eq_none]

theorem lookup?_eq_some_iff :
    table.lookup? name = some symbol ↔ symbol ∈ table.symbols ∧ symbol.name = name := by
  have hentries : ∀ name symbol, (name, symbol) ∈ table.map.entries ↔
      table.lookup? name = some symbol :=
    fun _ _ => OrderedMap.mem_entries_iff table.coherent.toAgrees
  rw [symbols, OrderedMap.values_eq, List.mem_map]
  constructor
  · intro h
    exact ⟨⟨_, (hentries name symbol).mpr h, rfl⟩, table.coherent.name_eq name symbol h⟩
  · rintro ⟨⟨entry, hentry, rfl⟩, rfl⟩
    have hlookup := (hentries entry.1 entry.2).mp hentry
    rwa [← table.coherent.name_eq _ _ hlookup] at hlookup

theorem names_eq (table : SymbolTable) : table.names = table.symbols.map Symbol.name := by
  rw [names, ← OrderedMap.keys_entries, symbols, OrderedMap.values_eq, List.map_map]
  refine List.map_congr_left fun entry hentry => ?_
  have hget := (OrderedMap.mem_entries_iff table.coherent.toAgrees).mp hentry
  exact (table.coherent.name_eq _ _ hget).symm

theorem lookup?_symbolOf (hname : name ∈ table.names) :
    table.lookup? name = some (table.symbolOf name) := by
  obtain ⟨symbol, hlookup⟩ := mem_names_iff.mp hname
  rw [symbolOf, hlookup]
  rfl

theorem symbolOf_mem (hname : name ∈ table.names) :
    table.symbolOf name ∈ table.symbols ∧ (table.symbolOf name).name = name :=
  lookup?_eq_some_iff.mp (lookup?_symbolOf hname)

theorem name_mem (hmem : symbol ∈ table.symbols) : symbol.name ∈ table.names := by
  rw [names_eq]
  exact List.mem_map_of_mem hmem

theorem nodup_symbols (table : SymbolTable) : table.symbols.Nodup := by
  have hnodup := table.nodup_names
  rw [names_eq] at hnodup
  exact hnodup.of_map

theorem eq_of_name_eq {symbol' : Symbol} (hmem : symbol ∈ table.symbols)
    (hmem' : symbol' ∈ table.symbols) (hname : symbol.name = symbol'.name) :
    symbol = symbol' := by
  have hlookup := lookup?_eq_some_iff.mpr ⟨hmem, hname⟩
  rw [lookup?_eq_some_iff.mpr ⟨hmem', rfl⟩] at hlookup
  exact (Option.some.inj hlookup).symm

theorem var_inj {m n : Identifier} (hm : m ∈ table.names) :
    table.var m = table.var n ↔ m = n := by
  constructor
  · intro h
    injection h with h
    exact (List.idxOf_inj hm).mp (by omega)
  · rintro rfl
    rfl

theorem var_lt (hname : name ∈ table.names) : (table.var name).index < table.size := by
  have hlt := List.idxOf_lt_length_of_mem hname
  rw [size_eq_length_names]
  simpa [var] using hlt

/-- A symbol has the place of its name. -/
theorem getElem?_symbols_iff {n : Nat} :
    table.symbols[n]? = some symbol ↔
      symbol ∈ table.symbols ∧ table.var symbol.name = ⟨(n : Int)⟩ := by
  have hplace : ∀ symbol ∈ table.symbols, ∀ n : Nat, table.symbols[n]? = some symbol →
      table.names.idxOf symbol.name = n := by
    intro symbol _ n hget
    have hname : table.names[n]? = some symbol.name := by
      rw [names_eq, List.getElem?_map, hget]
      rfl
    obtain ⟨hn, heq⟩ := List.getElem?_eq_some_iff.mp hname
    rw [← heq]
    exact table.nodup_names.idxOf_getElem n hn
  constructor
  · intro hget
    have hmem := List.mem_of_getElem? hget
    exact ⟨hmem, by rw [var, hplace symbol hmem n hget]⟩
  · rintro ⟨hmem, hvar⟩
    obtain ⟨m, hm⟩ := List.getElem?_of_mem hmem
    rw [var, hplace symbol hmem m hm] at hvar
    obtain rfl : m = n := by
      injection hvar with hvar
      omega
    exact hm

theorem define_of_taken {earlier : Symbol} (h : table.lookup? symbol.name = some earlier) :
    table.define symbol = .error (.duplicate earlier symbol) := by
  have htaken : table.map.contains symbol.name = true := Option.isSome_iff_exists.mpr ⟨earlier, h⟩
  simp [define, OrderedMap.add_of_contains htaken, h]

theorem define_of_new (h : symbol.name ∉ table.names) :
    ∃ after, table.define symbol = .ok after ∧ after.symbols = table.symbols ++ [symbol] := by
  have hnew : table.map.contains symbol.name = false := by
    rw [← Bool.not_eq_true, ← table.coherent.mem_keys_iff]
    exact h
  have hadd := OrderedMap.add_of_not_contains hnew symbol
  refine ⟨⟨_, table.coherent.add symbol⟩, by simp [define, hadd], ?_⟩
  simp only [symbols, OrderedMap.values_eq, hadd]
  rw [OrderedMap.entries_add h, List.map_append, List.map_singleton]

private theorem foldlM_define_symbols {symbols : List Symbol} {start : SymbolTable}
    (h : symbols.foldlM define start = .ok table) : table.symbols = start.symbols ++ symbols := by
  induction symbols generalizing start with
  | nil =>
    cases h
    simp
  | cons first rest ih =>
    rw [List.foldlM_cons] at h
    by_cases hname : first.name ∈ start.names
    · obtain ⟨earlier, hearlier⟩ := mem_names_iff.mp hname
      rw [define_of_taken hearlier] at h
      cases h
    · obtain ⟨middle, hdefine, hmiddle⟩ := define_of_new hname
      rw [hdefine] at h
      rw [ih h, hmiddle, List.append_assoc, List.singleton_append]

private theorem exists_foldlM_define {symbols : List Symbol} {start : SymbolTable}
    (h : ((start.symbols ++ symbols).map Symbol.name).Nodup) :
    ∃ table, symbols.foldlM define start = .ok table := by
  induction symbols generalizing start with
  | nil => exact ⟨start, rfl⟩
  | cons first rest ih =>
    rw [List.append_cons] at h
    have hname : first.name ∉ start.names := by
      rw [names_eq]
      rw [List.map_append, List.map_append] at h
      have hdisjoint := (List.nodup_append'.mp (List.nodup_append'.mp h).1).2.2
      exact fun hmem => hdisjoint hmem (List.mem_singleton_self _)
    obtain ⟨middle, hdefine, hmiddle⟩ := define_of_new hname
    rw [← hmiddle] at h
    obtain ⟨table, htable⟩ := ih h
    exact ⟨table, by rw [List.foldlM_cons, hdefine]; exact htable⟩

theorem symbols_of_ofSymbols {symbols : List Symbol} (h : ofSymbols symbols = .ok table) :
    table.symbols = symbols :=
  foldlM_define_symbols h

theorem exists_ofSymbols_iff {symbols : List Symbol} :
    (∃ table, ofSymbols symbols = .ok table) ↔ (symbols.map Symbol.name).Nodup := by
  constructor
  · rintro ⟨table, htable⟩
    rw [← symbols_of_ofSymbols htable, ← names_eq]
    exact table.nodup_names
  · exact fun h => exists_foldlM_define h

end SymbolTable

theorem resolveSymbols_ends (stmts : List Statement) (catalogue : Catalogue) (trace : Trace) :
    Ends (resolveSymbols stmts catalogue) trace
      (fun table _ => ∃ ds, declarations stmts = .ok ds ∧
        SymbolTable.ofSymbols (declaredSymbols ds catalogue) = .ok table)
      fun _ _ => True := by
  unfold resolveSymbols
  cases hdeclarations : declarations stmts with
  | error fault => exact Ends.throw trivial
  | ok ds =>
    dsimp only
    cases hsymbols : SymbolTable.ofSymbols (declaredSymbols ds catalogue) with
    | error error => exact Ends.throw trivial
    | ok table => exact Ends.bind Ends.trivial fun _ _ _ => Ends.pure ⟨ds, rfl, hsymbols⟩

/-- On declarations and assignments, with a trace that accepts all writes, resolving fails only if
the declared symbols do not fit into a table. -/
theorem resolveSymbols_accepting {stmts : List Statement} {catalogue : Catalogue} {trace : Trace}
    {ds : List Declaration} (hdeclarations : declarations stmts = .ok ds)
    (htrace : trace.Accepting) :
    Ends (resolveSymbols stmts catalogue) trace
      (fun table trace' => SymbolTable.ofSymbols (declaredSymbols ds catalogue) = .ok table ∧
        trace'.Accepting)
      fun failure _ => (∃ error, failure = .error error) ∧
        ¬ ((declaredSymbols ds catalogue).map Symbol.name).Nodup := by
  unfold resolveSymbols
  rw [hdeclarations]
  dsimp only
  cases hsymbols : SymbolTable.ofSymbols (declaredSymbols ds catalogue) with
  | error error =>
    refine Ends.throw ⟨⟨error, rfl⟩, fun hnodup => ?_⟩
    obtain ⟨table, hok⟩ := SymbolTable.exists_ofSymbols_iff.mpr hnodup
    rw [hsymbols] at hok
    cases hok
  | ok table =>
    have hwrite := (Trace.write_accepting htrace .general
      (Text.utf8 "symbols: " ++ table.render ++ Text.utf8 "\n"))
    exact Ends.bind (Ends.of_total hwrite) fun _ _ h => Ends.pure ⟨rfl, h⟩

end Typeflow
