import ClusterPlan.Program.Session
import ClusterPlan.Rollout.Backoff
import ClusterPlan.Rollout.Remote

/-!
# Deliveries

The delivery of its manifests to one server: probes until it answers, then room is made, the
directory of the server is copied, and what it describes is started. Each phase makes one call, and
the outcome of the call decides on the phase after it.
-/

namespace ClusterPlan

structure Delivery where
  server : String
  remote : Remote
  directory : String
  deriving Repr, DecidableEq

namespace Delivery

/-- A probe comes with the attempts that were left before it. -/
inductive Phase where
  | probing (backoff : Backoff)
  | clearing
  | copying
  | starting
  deriving Repr, DecidableEq

inductive Error where
  | unknownServer (server : String)
  | noKey (server : String)
  | noAddress (server : String)
  | unreachable (server : String) (fault : Program.Fault)
  | notCleared (fault : Program.Fault)
  | notCopied (server : String) (fault : Program.Fault)
  | notStarted (server : String) (fault : Program.Fault)
  deriving Repr, DecidableEq

/-! ### Calls -/

/-- Where the directories of servers go. -/
def remoteRoot : String := "/opt/shipyard"

def target (d : Delivery) : String := remoteRoot ++ "/" ++ d.server

def probeCommand : String := "true"

def clearCommand (d : Delivery) : String := "rm -rf " ++ d.target ++ " && mkdir -p " ++ remoteRoot

def startCommand (d : Delivery) : String :=
  "cd " ++ d.target ++ " && docker compose up -d --remove-orphans"

def call (d : Delivery) : Phase → Program.Call
  | .probing _ => d.remote.shellCall probeCommand
  | .clearing => d.remote.shellCall d.clearCommand
  | .copying => d.remote.copyCall d.directory remoteRoot
  | .starting => d.remote.shellCall d.startCommand

/-! ### Phases -/

/-- The phase after a failed probe. -/
def afterFailedProbe (d : Delivery) (b : Backoff) (fault : Program.Fault) :
    Except Error (Option Phase) :=
  match b.again? with
  | some (_, rest) => .ok (some (.probing rest))
  | none => .error (.unreachable d.server fault)

/-- The phase after the call of a phase has ended, if there is one. -/
def next (d : Delivery) : Phase → Except Program.Fault String → Except Error (Option Phase)
  | .probing b, .error fault => d.afterFailedProbe b fault
  | .probing _, .ok _ => .ok (some .clearing)
  | .clearing, .error fault => .error (.notCleared fault)
  | .clearing, .ok _ => .ok (some .copying)
  | .copying, .error fault => .error (.notCopied d.server fault)
  | .copying, .ok _ => .ok (some .starting)
  | .starting, .error fault => .error (.notStarted d.server fault)
  | .starting, .ok _ => .ok none

/-- The calls that can still be made, that of the phase among them. -/
def Phase.callsLeft : Phase → Nat
  | probing b => b.attempts + 3
  | clearing => 3
  | copying => 2
  | starting => 1

theorem Phase.callsLeft_pos (p : Phase) : 0 < p.callsLeft := by
  cases p <;> simp [callsLeft]

theorem callsLeft_lt_of_next {d : Delivery} {p q : Phase} {x : Except Program.Fault String}
    (h : d.next p x = .ok (some q)) : q.callsLeft < p.callsLeft := by
  cases p <;> cases x <;> simp only [next, reduceCtorEq, Except.ok.injEq, Option.some.injEq] at h
  case probing.error b fault =>
    unfold afterFailedProbe at h
    split at h
    case h_1 delay rest retry =>
      simp only [Except.ok.injEq, Option.some.injEq] at h
      subst h
      simpa [Phase.callsLeft] using Backoff.attempts_lt_of_again? retry
    case h_2 => simp at h
  all_goals
    subst h
    simp [Phase.callsLeft, Backoff.attempts_pos]

end Delivery

end ClusterPlan
