import Typeflow.Dictionary
import Typeflow.Failure

/-! Operations on sequences. -/

namespace Typeflow

variable {α : Type}

def removeAt (items : List α) (index : Int) : Except Fault (List α) :=
  match index with
  | .ofNat index =>
    if index < items.length then .ok (items.take index ++ items.drop (index + 1))
    else .error .outOfRange
  | .negSucc _ => .error .outOfRange

/-- Goes on keeping items that have not been seen. -/
def keepFirst [DecidableEq α] (seen : Dictionary α Unit) (kept : List α) : List α → List α
  | [] => kept
  | item :: rest =>
    if seen.contains item then keepFirst seen kept rest
    else keepFirst (seen.set item ()) (kept ++ [item]) rest

/-- Each item at its first place only. -/
def uniq [DecidableEq α] (items : List α) : List α := keepFirst .empty [] items

end Typeflow
