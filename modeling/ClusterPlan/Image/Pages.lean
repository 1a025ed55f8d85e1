import ClusterPlan.Activity

/-!
# Pages

A listing comes in pages, counted from 1. A page that is not full is the last one.
-/

namespace ClusterPlan.Pages

/-- How many items a full page has. -/
def size : Nat := 30

/-- The highest number that a page can have. -/
def lastNumber : Nat := Nat.pow 2 32 - 1

/-- The items from a page on, as long as there are `left` pages to ask for. -/
def collectFrom {κ ε α : Type} (fetch : Nat → Activity κ ε (List α)) (page : Nat) :
    (left : Nat) → Activity κ ε (List α)
  | 0 => pure []
  | left + 1 =>
    (fetch page).andThen fun items ↦
      if items.length < size then pure items
      else (collectFrom fetch (page + 1) left).andThen fun others ↦ pure (items ++ others)

def collect {κ ε α : Type} (fetch : Nat → Activity κ ε (List α)) : Activity κ ε (List α) :=
  collectFrom fetch 1 lastNumber

end ClusterPlan.Pages
