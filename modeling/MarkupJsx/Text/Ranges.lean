/-
  MarkupJsx.Text.Ranges — sets of code points as lists of closed intervals.
-/

namespace MarkupJsx.Text

abbrev Ranges := List (Nat × Nat)

def Ranges.covers (rs : Ranges) (n : Nat) : Bool := rs.any fun r => r.1 ≤ n && n ≤ r.2

end MarkupJsx.Text
