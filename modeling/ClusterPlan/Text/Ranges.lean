/-!
# Character ranges

A property of characters as a list of inclusive ranges of code points.
-/

namespace ClusterPlan.Text

abbrev Ranges := List (Nat × Nat)

def Ranges.contain (ranges : Ranges) (c : Char) : Bool :=
  ranges.any fun (first, last) ↦ first ≤ c.toNat && c.toNat ≤ last

end ClusterPlan.Text
