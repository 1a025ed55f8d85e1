import ClusterPlan.Program.Basic

/-!
# Remote hosts

A host that is reached with a key. Connections never ask back, and a host that is seen for the first
time is taken for what it says.
-/

namespace ClusterPlan

structure Remote where
  user : String
  address : String
  identity : String
  knownHosts : String
  deriving Repr, DecidableEq

namespace Remote

def destination (r : Remote) : String := r.user ++ "@" ++ r.address

def options (r : Remote) : List String :=
  ["-i", r.identity, "-o", "BatchMode=yes", "-o", "ConnectTimeout=10", "-o",
    "StrictHostKeyChecking=accept-new", "-o", "UserKnownHostsFile=" ++ r.knownHosts]

/-- Have a command run on the host. -/
def shellCall (r : Remote) (command : String) : Program.Call :=
  ⟨"ssh", r.options ++ [r.destination, command]⟩

/-- Copy a directory with all that is in it into one of the host. -/
def copyCall (r : Remote) (directory target : String) : Program.Call :=
  ⟨"scp", r.options ++ ["-r", directory, r.destination ++ ":" ++ target]⟩

end Remote

end ClusterPlan
