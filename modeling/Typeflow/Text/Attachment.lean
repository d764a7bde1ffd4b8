import Typeflow.Text.CombiningClass
import Typeflow.Text.Decomposition

/-!
How many characters at the start and at the end of a decomposition attach to what stands before
them. A character attaches if its class is not zero or if it composes backward. The counts are
taken on the compatibility decomposition, which differs from the canonical one on the characters
listed here.
-/

namespace Typeflow

/-- First and last code point of a range, then the counts at the start and at the end. -/
def compatibilityAttachments : List (Nat × Nat × Nat × Nat) := [
  (0xa8, 0xa8, 0, 1), (0xaf, 0xaf, 0, 1), (0xb4, 0xb4, 0, 1), (0xb8, 0xb8, 0, 1),
  (0x1c4, 0x1c6, 0, 1), (0x2d8, 0x2dd, 0, 1), (0x37a, 0x37a, 0, 1), (0x384, 0x384, 0, 1),
  (0x385, 0x385, 0, 2), (0xf77, 0xf77, 0, 2), (0xf79, 0xf79, 0, 2), (0x1fbd, 0x1fbd, 0, 1),
  (0x1fbf, 0x1fc0, 0, 1), (0x1fc1, 0x1fc1, 0, 2), (0x1fcd, 0x1fcf, 0, 2), (0x1fdd, 0x1fdf, 0, 2),
  (0x1fed, 0x1fee, 0, 2), (0x1ffd, 0x1ffe, 0, 1), (0x2017, 0x2017, 0, 1), (0x203e, 0x203e, 0, 1),
  (0x309b, 0x309c, 0, 1), (0x3133, 0x3133, 1, 1), (0x3135, 0x3136, 1, 1), (0x313a, 0x313f, 1, 1),
  (0x314f, 0x3163, 1, 1), (0x326e, 0x327e, 0, 1), (0x3304, 0x3304, 0, 1), (0x3307, 0x3307, 0, 1),
  (0x3310, 0x3310, 0, 1), (0x331e, 0x331e, 0, 1), (0x3321, 0x3321, 0, 1), (0x3332, 0x3332, 0, 1),
  (0x333b, 0x333b, 0, 1), (0x3340, 0x3340, 0, 1), (0x334b, 0x334b, 0, 1), (0x334e, 0x334e, 0, 1),
  (0xfba4, 0xfba5, 0, 1), (0xfbb0, 0xfbb1, 0, 1), (0xfc5b, 0xfc5d, 0, 1), (0xfc5e, 0xfc63, 0, 2),
  (0xfc90, 0xfc90, 0, 1), (0xfcd9, 0xfcd9, 0, 1), (0xfcf2, 0xfcf4, 0, 2), (0xfd3c, 0xfd3d, 0, 1),
  (0xfe49, 0xfe4c, 0, 1), (0xfe70, 0xfe72, 0, 1), (0xfe74, 0xfe74, 0, 1), (0xfe76, 0xfe7f, 0, 1),
  (0xfe81, 0xfe8c, 0, 1), (0xfef5, 0xfefa, 0, 1), (0xff9e, 0xff9f, 1, 1), (0xffa3, 0xffa3, 1, 1),
  (0xffa5, 0xffa6, 1, 1), (0xffaa, 0xffaf, 1, 1), (0xffc2, 0xffc7, 1, 1), (0xffca, 0xffcf, 1, 1),
  (0xffd2, 0xffd7, 1, 1), (0xffda, 0xffdc, 1, 1), (0xffe3, 0xffe3, 0, 1),
  (0x1f213, 0x1f213, 0, 1)]

def attaches (code : Nat) : Bool := combiningClass code != 0 || composesBackward code

def attachments (code : Nat) : Nat × Nat :=
  if code < 0xa0 then (0, 0)
  else if Hangul.isSyllable code then (0, if Hangul.isOpenSyllable code then 1 else 2)
  else
    match compatibilityAttachments.find? fun (low, high, _) => low ≤ code && code ≤ high with
    | some (_, _, leading, trailing) => (leading, trailing)
    | none =>
      let parts := decompose code
      ((parts.takeWhile attaches).length, (parts.reverse.takeWhile attaches).length)

end Typeflow
