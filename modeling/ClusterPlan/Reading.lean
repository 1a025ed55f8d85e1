/-!
# Reading from the front

A reader takes a value off the front of a list and leaves a shorter one, which is what makes a
reader that calls itself on the rest come to an end.
-/

namespace ClusterPlan

structure Taken (τ α : Type) (input : List τ) where
  value : α
  rest : List τ
  shorter : rest.length < input.length

namespace Taken

variable {τ α β : Type} {input other : List τ}

def map (f : α → β) (t : Taken τ α input) : Taken τ β input := ⟨f t.value, t.rest, t.shorter⟩

/-- What is taken from a list is also taken from a list that is at least as long. -/
def within (t : Taken τ α other) (h : other.length ≤ input.length) : Taken τ α input :=
  ⟨t.value, t.rest, Nat.lt_of_lt_of_le t.shorter h⟩

end Taken

theorem length_dropWhile_le {τ : Type} (p : τ → Bool) (xs : List τ) :
    (xs.dropWhile p).length ≤ xs.length := by
  induction xs with
  | nil => simp
  | cons x xs ih =>
    rw [List.dropWhile_cons]
    split
    · exact Nat.le_succ_of_le ih
    · exact Nat.le_refl _

end ClusterPlan
