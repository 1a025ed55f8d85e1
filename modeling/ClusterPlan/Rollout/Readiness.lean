import ClusterPlan.Rollout.Backoff

/-!
# Waiting for readiness

A probe is made again and again, with delays between, until it succeeds or no attempt is left. The
error of the last probe is the error of the wait.
-/

namespace ClusterPlan

/-- How a wait went: the probes made, the delays between them, and what the last probe said. -/
structure Waited (ε : Type) where
  probes : Nat
  delays : List Nat
  result : Except ε Unit

namespace Backoff

variable {ε : Type}

/-- Wait for a probe that is made for the first time at a count. -/
def waitFrom (count : Nat) (probe : Nat → Except ε Unit) (b : Backoff) : Waited ε :=
  match probe count with
  | .ok () => ⟨1, [], .ok ()⟩
  | .error e =>
    match _h : b.again? with
    | none => ⟨1, [], .error e⟩
    | some (delay, rest) =>
      let later := waitFrom (count + 1) probe rest
      ⟨later.probes + 1, delay :: later.delays, later.result⟩
  termination_by b.attempts
  decreasing_by exact attempts_lt_of_again? _h

/-- Wait for a probe, which is told how many probes were made before. -/
def wait (probe : Nat → Except ε Unit) (b : Backoff) : Waited ε := b.waitFrom 0 probe

end Backoff

end ClusterPlan
