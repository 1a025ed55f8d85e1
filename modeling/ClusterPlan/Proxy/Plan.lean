import ClusterPlan.Naming
import ClusterPlan.Proxy.Port

/-!
# Proxy plans

The plan of the reverse proxy of one server. Every pair of an image on the server and a proxied
container port has a pool of backends. A port that is bound on the host is served by every server
that runs the image, another one by the container on the server alone. Each route claims a domain,
a port and a path, and the first claim of these three counts.
-/

namespace ClusterPlan.Proxy

/-- One image placed on one server. A server has no address before it is provisioned. -/
structure Placement where
  server : String
  address : Option String
  image : String
  ports : List Port
  deriving Repr, DecidableEq

def Placement.hostAddress (p : Placement) : String := p.address.getD p.server

structure Backend where
  address : String
  port : String
  deriving Repr, DecidableEq

def Backend.endpoint (b : Backend) : String := b.address ++ ":" ++ b.port

/-- Backends that share the requests of one image port. -/
structure Pool where
  name : String
  strategy : Strategy
  backends : List Backend
  deriving Repr, DecidableEq

/-- A path that is sent to a pool. -/
structure Location where
  path : String
  pool : String
  deriving Repr, DecidableEq

structure Listener where
  domain : String
  port : String
  locations : List Location
  deriving Repr, DecidableEq

structure Plan where
  server : String
  pools : List Pool
  listeners : List Listener
  deriving Repr, DecidableEq

/-- Two images on one server answer the same route. -/
structure RouteConflict where
  server : String
  route : String
  first : String
  second : String
  deriving Repr, DecidableEq

def RouteConflict.message (e : RouteConflict) : String :=
  "server \"" ++ e.server ++ "\": route " ++ e.route ++ " is claimed by both " ++ e.first ++
    " and " ++ e.second

/-- How routes are settled, and the strategy of pools that ask for none. -/
structure PlanOptions where
  defaultStrategy : Strategy
  allowOverride : Bool
  deriving Repr, DecidableEq

namespace Plan

/-- The domain of routes that name none. -/
def defaultDomain : String := "_"

def isEmpty (plan : Plan) : Bool := plan.pools.isEmpty

def pool? (plan : Plan) (name : String) : Option Pool := plan.pools.find? (·.name == name)

/-- The number by which a port is sorted; a text that is no number counts as zero. -/
def portNumber (port : String) : Nat :=
  (Decimal.readBounded? Port.limit port.toList).getD 0

/-- A list without the members that equal the one right before them. -/
def dropRepeats : List String → List String
  | a :: b :: rest => if a = b then dropRepeats (b :: rest) else a :: dropRepeats (b :: rest)
  | short => short

/-- The ports that the proxy listens on, in order of their numbers. -/
def listenPorts (plan : Plan) : List String :=
  dropRepeats ((plan.listeners.map (·.port)).mergeSort
    fun a b ↦ portNumber a ≤ portNumber b)

/-! ### What is served -/

/-- A proxied port of an image on the server. -/
structure Served where
  placement : Placement
  port : Port
  proxyPort : String

/-- The proxied ports on a server, in the order of placements and ports. -/
def served (server : String) (placements : List Placement) : List Served :=
  (placements.filter (·.server == server)).flatMap fun placement ↦
    placement.ports.filterMap fun port ↦
      if port.isProxied then port.proxyPort.map (⟨placement, port, ·⟩) else none

def Served.poolName (s : Served) : String :=
  Naming.sanitize (s.placement.image ++ "-" ++ s.port.container)

/-- Who can serve a port: the container itself, or all servers on which its image has the port
bound on the host. -/
def Served.backends (placements : List Placement) (s : Served) : List Backend :=
  match s.port.host with
  | none => [⟨s.placement.image, s.port.container⟩]
  | some host =>
    (placements.filter (·.image == s.placement.image)).map (⟨·.hostAddress, host⟩)

/-- The domains and paths at which a port answers. -/
def Served.answers (s : Served) : List (String × String) :=
  if s.port.routes.isEmpty then [(defaultDomain, "/")]
  else s.port.routes.map fun r ↦ (r.domain, r.path)

/-! ### Claims -/

structure Claim where
  domain : String
  port : String
  path : String
  image : String
  pool : String
  deriving Repr, DecidableEq

def Claim.key (c : Claim) : String × String × String := (c.domain, c.port, c.path)

def Claim.route (c : Claim) : String := c.domain ++ ":" ++ c.port ++ c.path

def Served.claims (s : Served) : List Claim :=
  s.answers.map fun (domain, path) ↦
    ⟨domain, s.proxyPort, path, s.placement.image, s.poolName⟩

/-- The claim that holds a key: the first one of that key. -/
def holder? (claims : List Claim) (key : String × String × String) : Option Claim :=
  claims.find? (·.key == key)

/-- The first claim of a key that another pool holds, as a conflict with its holder. -/
def conflict? (server : String) (claims : List Claim) : Option RouteConflict :=
  claims.findSome? fun c ↦
    match holder? claims c.key with
    | some holder =>
      if holder.pool = c.pool then none else some ⟨server, c.route, holder.image, c.image⟩
    | none => none

/-- The claims that hold their keys, each once. -/
def held (kept : List Claim) : List Claim → List Claim
  | [] => kept
  | c :: rest => held (if (holder? kept c.key).isSome then kept else kept ++ [c]) rest

/-- Put a location under the listener of its domain and port, a new one if there is none. -/
def addLocation (c : Claim) : List Listener → List Listener
  | [] => [⟨c.domain, c.port, [⟨c.path, c.pool⟩]⟩]
  | l :: rest =>
    if l.domain = c.domain ∧ l.port = c.port then
      { l with locations := l.locations ++ [⟨c.path, c.pool⟩] } :: rest
    else l :: addLocation c rest

def listenersOf (claims : List Claim) : List Listener :=
  claims.foldl (fun listeners c ↦ addLocation c listeners) []

/-! ### Pools -/

/-- Members of a list that are not among those kept yet, added one by one. -/
def addNew {α : Type} [BEq α] (kept : List α) : List α → List α
  | [] => kept
  | a :: rest => addNew (if kept.contains a then kept else kept ++ [a]) rest

def poolNames (served : List Served) : List String := addNew [] (served.map (·.poolName))

/-- The pool of a name: all backends of its ports, and the first strategy that a route asks for. -/
def poolOf (options : PlanOptions) (placements : List Placement) (served : List Served)
    (name : String) : Pool :=
  let members := served.filter (·.poolName == name)
  ⟨name,
    (members.findSome? fun s ↦ s.port.routes.findSome? (·.strategy)).getD options.defaultStrategy,
    addNew [] (members.flatMap (·.backends placements))⟩

/-- Whether a listener sends anything to a pool. -/
def isRouted (listeners : List Listener) (name : String) : Bool :=
  listeners.any fun l ↦ l.locations.any (·.pool == name)

def ofServed (options : PlanOptions) (server : String) (placements : List Placement)
    (served : List Served) : Plan :=
  let listeners := listenersOf (held [] (served.flatMap (·.claims)))
  let names := (poolNames served).filter (isRouted listeners)
  ⟨server, names.map (poolOf options placements served), listeners⟩

end Plan

/-- The plan of a server. A conflict is a failure unless later claims may be overridden. -/
def plan (options : PlanOptions) (server : String) (placements : List Placement) :
    Except RouteConflict Plan :=
  let served := Plan.served server placements
  let conflict? := Plan.conflict? server (served.flatMap (·.claims))
  match options.allowOverride, conflict? with
  | false, some conflict => .error conflict
  | _, _ => .ok (Plan.ofServed options server placements served)

end ClusterPlan.Proxy
