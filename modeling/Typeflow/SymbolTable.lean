import Typeflow.OrderedMap
import Typeflow.Trace

/-!
Symbol tables. A table maps names to symbols and remembers the order of definition. The table of a
program has one variable for each declaration, wherever it stands, and then the functions of the
catalogue in the order of their names.
-/

namespace Typeflow

open Text

/-- Each name has one place, and what it denotes goes by that name. -/
structure SymbolTable.Coherent (map : OrderedMap Identifier Symbol) : Prop
    extends map.Agrees where
  name_eq : ∀ name symbol, map.get? name = some symbol → symbol.name = name

structure SymbolTable where
  map : OrderedMap Identifier Symbol
  coherent : SymbolTable.Coherent map

namespace SymbolTable

theorem coherent_empty : Coherent OrderedMap.empty :=
  ⟨OrderedMap.agrees_empty, fun _ _ h => nomatch h⟩

theorem Coherent.add {map : OrderedMap Identifier Symbol} (h : Coherent map) (symbol : Symbol) :
    Coherent (map.add symbol.name symbol).2 := by
  refine ⟨h.toAgrees.add _ _, fun name known hget => ?_⟩
  cases hname : map.contains symbol.name with
  | true =>
    rw [OrderedMap.add_of_contains hname] at hget
    exact h.name_eq name known hget
  | false =>
    rw [OrderedMap.add_of_not_contains hname, OrderedMap.get?, Dictionary.get?_set] at hget
    split at hget
    · next heq =>
      cases hget
      exact heq.symm
    · exact h.name_eq name known hget

def empty : SymbolTable := ⟨OrderedMap.empty, coherent_empty⟩

def size (table : SymbolTable) : Nat := table.map.size

def names (table : SymbolTable) : List Identifier := table.map.keys

def symbols (table : SymbolTable) : List Symbol := table.map.values

def lookup? (table : SymbolTable) (name : Identifier) : Option Symbol := table.map.get? name

/-- Defines a symbol under its name; a name that is taken is an error. -/
def define (table : SymbolTable) (symbol : Symbol) : Except InferenceError SymbolTable :=
  let result := table.map.add symbol.name symbol
  if result.1 then .ok ⟨result.2, table.coherent.add symbol⟩
  else .error (.duplicate ((table.lookup? symbol.name).getD symbol) symbol)

def find (table : SymbolTable) (name : Identifier) (statement : Statement) :
    Except InferenceError Symbol :=
  match table.lookup? name with
  | some symbol => .ok symbol
  | none => .error (.undefined name statement)

def render (table : SymbolTable) : Text :=
  let collect : StateM (List Text) Unit :=
    table.map.iter fun _ symbol => modify (· ++ [symbol.render])
  utf8 "\x7b " ++ Text.join (utf8 ", ") (collect.run []).2 ++ utf8 " \x7d"

end SymbolTable

/-- The declarations among statements. Only declarations and assignments are provided for. -/
def declarations : List Statement → Except Fault (List Declaration)
  | [] => .ok []
  | .declare declaration :: rest => (declarations rest).map (declaration :: ·)
  | .assign .. :: rest => declarations rest
  | .unknown :: _ | .missing :: _ => .error .unreachable

/-- The symbols of a program before they are put into a table. -/
def declaredSymbols (declarations : List Declaration) (catalogue : Catalogue) : List Symbol :=
  declarations.map .variable ++
    catalogue.functions.map fun (name, signature) => .function name signature

def SymbolTable.ofSymbols (symbols : List Symbol) : Except InferenceError SymbolTable :=
  symbols.foldlM define empty

def resolveSymbols (stmts : List Statement) (catalogue : Catalogue) :
    EStateM Failure Trace SymbolTable := do
  match declarations stmts with
  | .error fault => throw (.fault fault)
  | .ok declarations =>
    match SymbolTable.ofSymbols (declaredSymbols declarations catalogue) with
    | .error error => throw (.error error)
    | .ok table =>
      Trace.write .general (utf8 "symbols: " ++ table.render ++ utf8 "\n")
      return table

end Typeflow
