/-!
Sets of code points as lists of closed ranges in increasing order.
-/

namespace Typeflow

abbrev Ranges := List (Nat × Nat)

def Ranges.contains (ranges : Ranges) (code : Nat) : Bool :=
  ranges.any fun (low, high) => low ≤ code && code ≤ high

end Typeflow
