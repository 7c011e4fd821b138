/-!
# Sets of characters as ranges
-/

namespace IdentityConsole.Text

/-- Whether a number lies in one of the ranges, which stand in increasing order. -/
def inRanges (n : Nat) : List (Nat × Nat) → Bool
  | [] => false
  | (least, greatest) :: rest =>
    if n < least then false else n ≤ greatest || inRanges n rest

end IdentityConsole.Text
