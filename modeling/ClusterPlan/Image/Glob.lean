/-!
# Wildcards

In a pattern a star stands for any run of characters within a line, and every other character for
itself. A pattern matches a text as a whole.
-/

namespace ClusterPlan.Glob

def star : Char := '*'

def isWildcard (pattern : String) : Bool := pattern.toList.contains star

/-- A star matches nothing, or one more character before it is tried again. -/
def matchChars (pattern cs : List Char) : Bool :=
  match pattern, cs with
  | [], cs => cs.isEmpty
  | p :: pattern, [] => p == star && matchChars pattern []
  | p :: pattern, c :: cs =>
    if p = star then
      matchChars pattern (c :: cs) || (c != '\n' && matchChars (p :: pattern) cs)
    else p == c && matchChars pattern cs
termination_by pattern.length + cs.length

def isMatch (pattern candidate : String) : Bool := matchChars pattern.toList candidate.toList

/-- The candidates that a pattern matches, in their order. -/
def keep (pattern : String) (candidates : List String) : List String :=
  candidates.filter (isMatch pattern)

end ClusterPlan.Glob
