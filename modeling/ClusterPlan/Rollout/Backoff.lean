/-!
# Backoff

A limited number of attempts with growing delays between them: the delay doubles after each attempt
up to a longest one. Delays are in nanoseconds.
-/

namespace ClusterPlan

/-- The attempts that are left, and the delay after the next of them. -/
structure Backoff where
  remaining : Nat
  delay : Nat
  deriving Repr, DecidableEq

namespace Backoff

def second : Nat := 1_000_000_000

/-- A delay that grows stays within this one. -/
def longestDelay : Nat := 60 * second

def ofSeconds (attempts interval : Nat) : Backoff := ⟨attempts, interval * second⟩

/-- Take an attempt: the delay after it, and what is left. -/
def next? (b : Backoff) : Option (Nat × Backoff) :=
  if b.remaining = 0 then none
  else some (b.delay, ⟨b.remaining - 1, min (2 * b.delay) longestDelay⟩)

/-- After an attempt has failed: the delay until another one, if another one is left. -/
def again? (b : Backoff) : Option (Nat × Backoff) :=
  b.next?.filter fun (_, rest) ↦ rest.remaining ≠ 0

/-- The attempts that are made unless one succeeds. The first is always made. -/
def attempts (b : Backoff) : Nat := max 1 b.remaining

theorem attempts_pos (b : Backoff) : 0 < b.attempts := by simp only [attempts]; omega

/-- The attempt that is taken for a probe is the last one where no other is left behind it. -/
theorem again?_eq (b : Backoff) : b.again? = if 1 < b.remaining then b.next? else none := by
  unfold again? next?
  by_cases hnone : b.remaining = 0
  · simp [hnone]
  · have hleft : b.remaining - 1 ≠ 0 ↔ 1 < b.remaining := by omega
    simp only [if_neg hnone, Option.filter_some, hleft, decide_eq_true_eq]

theorem attempts_of_again? {b rest : Backoff} {delay : Nat}
    (h : b.again? = some (delay, rest)) : b.attempts = rest.attempts + 1 := by
  rw [again?_eq, next?] at h
  split at h
  next hmore =>
    rw [if_neg (by omega), Option.some.injEq, Prod.mk.injEq] at h
    obtain ⟨-, rfl⟩ := h
    simp only [attempts]
    omega
  next => cases h

theorem attempts_lt_of_again? {b rest : Backoff} {delay : Nat}
    (h : b.again? = some (delay, rest)) : rest.attempts < b.attempts := by
  rw [attempts_of_again? h]
  exact Nat.lt_succ_self rest.attempts

/-- The delays of so many attempts, as far as attempts are left. -/
def delays (b : Backoff) : Nat → List (Option Nat)
  | 0 => []
  | n + 1 =>
    match b.next? with
    | none => none :: b.delays n
    | some (delay, rest) => some delay :: rest.delays n

end Backoff

end ClusterPlan
