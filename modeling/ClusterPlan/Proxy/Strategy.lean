/-!
# Balancing strategies
-/

namespace ClusterPlan.Proxy

/-- How requests are spread over the backends of a pool. -/
inductive Strategy where
  | roundRobin
  | leastConn
  | ipHash
  | random
  deriving Repr, DecidableEq

namespace Strategy

def name : Strategy → String
  | roundRobin => "round_robin"
  | leastConn => "least_conn"
  | ipHash => "ip_hash"
  | random => "random"

def all : List Strategy := [roundRobin, leastConn, ipHash, random]

/-- The directive that selects a strategy in the configuration of a pool, if it needs one. -/
def directive? : Strategy → Option String
  | roundRobin => none
  | other => some other.name

/-- A name that is no strategy's. -/
structure Unknown where
  name : String
  deriving Repr, DecidableEq

def Unknown.message (e : Unknown) : String :=
  "unknown strategy \"" ++ e.name ++ "\"; expected round_robin, least_conn, ip_hash or random"

def parse (name : String) : Except Unknown Strategy :=
  match all.find? (·.name == name) with
  | some strategy => .ok strategy
  | none => .error ⟨name⟩

end Strategy

end ClusterPlan.Proxy
