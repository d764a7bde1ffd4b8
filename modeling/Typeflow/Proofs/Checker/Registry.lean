import Mathlib.Data.List.Induction
import Typeflow.Checker.Basic
import Typeflow.Proofs.Arena.Entry
import Typeflow.Proofs.SymbolTable

/-!
The variables of symbols. A run gives the symbols of its table new variables, one after the other,
so a symbol has the variable with its place, and the variable has this symbol as its only owner.
All of them are variables of the arena, and they stay so as long as the arena only grows.
-/

namespace Typeflow

/-- These symbols, in order, are the owners of the first variables. -/
structure Registry.Lists (registry : Registry) (symbols : List Symbol) : Prop where
  arena_eq : registry.arena = Arena.empty.grow symbols.length
  vars_iff : ∀ symbol v, registry.vars.get? symbol = some v ↔
    ∃ n : Nat, v = ⟨n⟩ ∧ symbols[n]? = some symbol
  owners_iff : ∀ v symbol, registry.owners.get? v = some symbol ↔
    ∃ n : Nat, v = ⟨n⟩ ∧ symbols[n]? = some symbol

namespace Registry

variable {registry : Registry} {symbols : List Symbol} {symbol : Symbol}

theorem lists_empty : empty.Lists [] := by
  refine ⟨rfl, ?_, ?_⟩
  · simp [empty, Dictionary.get?_empty]
  · simp [empty, Dictionary.get?_empty]

theorem Lists.register (h : registry.Lists symbols) (hnew : symbol ∉ symbols) :
    (registry.register symbol).Lists (symbols ++ [symbol]) := by
  have hfresh : registry.arena.fresh =
      (⟨(symbols.length : Int)⟩, Arena.empty.grow (symbols ++ [symbol]).length) := by
    rw [h.arena_eq, Arena.fresh_eq_grow, Arena.size_grow_empty, Arena.grow_grow,
      List.length_append, List.length_singleton]
  have hnone : symbols[symbols.length]? = none := List.getElem?_eq_none (Nat.le_refl _)
  have hold : ∀ n : Nat, symbols[n]? ≠ some symbol := fun n hget =>
    hnew (List.mem_of_getElem? hget)
  unfold Registry.register
  rw [hfresh]
  refine ⟨rfl, fun s v => ?_, fun v s => ?_⟩
  · simp only [Dictionary.get?_set, getElem?_concat_eq_some]
    by_cases hs : s = symbol
    · subst hs
      simp [hold, eq_comm]
    · simp [hs, Ne.symm hs, h.vars_iff]
  · simp only [Dictionary.get?_set, getElem?_concat_eq_some]
    by_cases hv : v = ⟨(symbols.length : Int)⟩
    · subst hv
      rw [if_pos rfl, Option.some.injEq]
      constructor
      · exact fun heq => ⟨symbols.length, rfl, Or.inr ⟨rfl, heq⟩⟩
      · rintro ⟨n, hn, hget⟩
        injection hn with hn
        obtain rfl : symbols.length = n := by omega
        simpa [hnone] using hget
    · have hne : ∀ n : Nat, v = ⟨(n : Int)⟩ → n ≠ symbols.length := by
        rintro n hn rfl
        exact hv hn
      rw [if_neg hv, h.owners_iff]
      refine exists_congr fun n => and_congr_right fun hn => ?_
      simp [hne n hn]

theorem lists_ofSymbols (hnodup : symbols.Nodup) : (ofSymbols symbols).Lists symbols := by
  induction symbols using List.reverseRecOn with
  | nil => exact lists_empty
  | append_singleton before last ih =>
    rw [List.nodup_append_comm] at hnodup
    obtain ⟨hlast, hbefore⟩ := List.nodup_cons.mp hnodup
    rw [ofSymbols, List.foldl_concat]
    exact (ih hbefore).register hlast

end Registry

namespace Checker

variable {checker checker' : Checker} {symbol : Symbol} {v : TypeVar}

theorem vars_eq_some_iff : checker.vars.get? symbol = some v ↔
    symbol ∈ checker.table.symbols ∧ v = checker.table.var symbol.name := by
  have hlists := Registry.lists_ofSymbols checker.table.nodup_symbols
  rw [checker.vars_eq, hlists.vars_iff]
  simp only [SymbolTable.getElem?_symbols_iff]
  constructor
  · rintro ⟨n, rfl, hmem, hvar⟩
    exact ⟨hmem, hvar.symm⟩
  · rintro ⟨hmem, rfl⟩
    exact ⟨_, rfl, hmem, rfl⟩

theorem owner?_eq_some_iff : checker.owner? v = some symbol ↔
    symbol ∈ checker.table.symbols ∧ v = checker.table.var symbol.name := by
  have hlists := Registry.lists_ofSymbols checker.table.nodup_symbols
  rw [← vars_eq_some_iff, owner?, checker.owners_eq, checker.vars_eq, hlists.owners_iff,
    hlists.vars_iff]

theorem varOf_eq_ok_iff : checker.varOf symbol = .ok v ↔
    symbol ∈ checker.table.symbols ∧ v = checker.table.var symbol.name := by
  rw [← vars_eq_some_iff]
  unfold varOf Dictionary.contains Dictionary.value
  cases hget : checker.vars.get? symbol with
  | none => simp [assert, bind, Except.bind]
  | some w => simp [assert, bind, Except.bind, pure, Except.pure]

theorem varOf_eq (hmem : symbol ∈ checker.table.symbols) :
    checker.varOf symbol = .ok (checker.table.var symbol.name) :=
  varOf_eq_ok_iff.mpr ⟨hmem, rfl⟩

theorem varOf_congr (htable : checker.table = checker'.table) (symbol : Symbol) :
    checker.varOf symbol = checker'.varOf symbol := by
  unfold varOf
  rw [checker.vars_eq, checker'.vars_eq, htable]

theorem owner?_congr (htable : checker.table = checker'.table) (v : TypeVar) :
    checker.owner? v = checker'.owner? v := by
  unfold owner?
  rw [checker.owners_eq, checker'.owners_eq, htable]

theorem ofTable_arena (table : SymbolTable) (trace : Trace) :
    (ofTable table trace).arena = Arena.empty.grow table.size := by
  rw [← table.length_symbols]
  exact (Registry.lists_ofSymbols table.nodup_symbols).arena_eq

/-- Each symbol of the table has a variable of the arena, of which it is the owner. -/
def Registered (checker : Checker) : Prop :=
  ∀ symbol ∈ checker.table.symbols, ∃ v, checker.varOf symbol = .ok v ∧
    checker.owner? v = some symbol ∧ checker.arena.Owns v

/-- The symbols have the first variables, so it is enough that the arena has as many. -/
theorem registered_iff : checker.Registered ↔ checker.table.size ≤ checker.arena.size := by
  constructor
  · intro h
    by_contra hlt
    -- The symbol at the place behind the last variable would have no variable.
    have hplace : checker.arena.size < checker.table.symbols.length := by
      rw [checker.table.length_symbols]
      omega
    have hget := List.getElem?_eq_getElem hplace
    obtain ⟨hmem, hvar⟩ := SymbolTable.getElem?_symbols_iff.mp hget
    obtain ⟨v, hv, _, howns⟩ := h _ hmem
    rw [(varOf_eq_ok_iff.mp hv).2, hvar] at howns
    exact absurd howns.2 (by simp)
  · intro hsize symbol hmem
    have hlt := SymbolTable.var_lt (SymbolTable.name_mem hmem)
    have hnonneg : 0 ≤ (checker.table.var symbol.name).index := Int.natCast_nonneg _
    exact ⟨_, varOf_eq hmem, owner?_eq_some_iff.mpr ⟨hmem, rfl⟩, hnonneg, by omega⟩

theorem registered_ofTable (table : SymbolTable) (trace : Trace) :
    (ofTable table trace).Registered := by
  rw [registered_iff, ofTable_arena, Arena.size_grow_empty]
  exact Nat.le_refl _

/-- A step that leaves the table alone and makes the arena no smaller keeps the variables. -/
theorem Registered.mono (h : checker.Registered) (htable : checker'.table = checker.table)
    (hsize : checker.arena.size ≤ checker'.arena.size) : checker'.Registered := by
  rw [registered_iff] at h ⊢
  rw [htable]
  exact Nat.le_trans h hsize

end Checker

end Typeflow
