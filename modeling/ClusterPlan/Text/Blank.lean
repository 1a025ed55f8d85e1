/-!
# Blank characters

The Unicode property White_Space, and texts with their outer blanks removed.
-/

namespace ClusterPlan.Text

def isBlank (c : Char) : Bool :=
  let n := c.toNat
  (9 ≤ n && n ≤ 13) || n == 32 || n == 0x85 || n == 0xA0 || n == 0x1680 ||
    (0x2000 ≤ n && n ≤ 0x200A) || n == 0x2028 || n == 0x2029 || n == 0x202F || n == 0x205F ||
    n == 0x3000

def trimStart (cs : List Char) : List Char := cs.dropWhile isBlank

def trimEnd (cs : List Char) : List Char := (cs.reverse.dropWhile isBlank).reverse

/-- A text without the blanks before its first and after its last other character. -/
def trim (s : String) : String := String.ofList (trimEnd (trimStart s.toList))

def isBlankText (s : String) : Bool := s.toList.all isBlank

end ClusterPlan.Text
