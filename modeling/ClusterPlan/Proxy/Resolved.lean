import ClusterPlan.Proxy.Declaration

/-!
# The ports of an image

The ports that are declared for an image come first. A proxy declaration adds its route to the
declared port of the same container port, which it may not contradict, or else a port of its own.
Only where nothing is declared do the ports count that the image exposes.
-/

namespace ClusterPlan.Proxy

/-- Whether the ports of an image can only be learnt from the image. -/
def needsInspection (ports proxies : List String) : Bool := ports.isEmpty && proxies.isEmpty

/-- Routes with those of others that are not among them yet. -/
def mergeRoutes (routes : List Route) : List Route → List Route
  | [] => routes
  | route :: rest =>
    mergeRoutes (if routes.contains route then routes else routes ++ [route]) rest

/-- Add a port, or its routes to the port of the same key. -/
def addPort (port : Port) : List Port → List Port
  | [] => [port]
  | p :: rest =>
    if p.key = port.key then { p with routes := mergeRoutes p.routes port.routes } :: rest
    else p :: addPort port rest

def addWritten (out : List Port) : List String → Except PortError (List Port)
  | [] => .ok out
  | written :: rest =>
    match Port.parse written with
    | .ok port => addWritten (addPort port out) rest
    | .error flaw => .error (.invalid written flaw)

/-- A proxy may leave out the host port of the port that it is attached to. -/
def agrees (declared proxied : Port) : Bool :=
  declared.proxyPort == proxied.proxyPort && declared.direct == proxied.direct &&
    (proxied.host.isNone || proxied.host == declared.host)

/-- Add the route of a declaration to the first port of its container port, if there is one. -/
def attachRoute (d : Declaration) : List Port → Except ProxyFlaw (Option (List Port))
  | [] => .ok none
  | p :: rest =>
    if p.container = d.port.container then
      if agrees p d.port then .ok (some ({ p with routes := p.routes ++ [d.route] } :: rest))
      else .error (.contradiction p d.port)
    else (attachRoute d rest).map (·.map (p :: ·))

def attach (d : Declaration) (out : List Port) : Except ProxyFlaw (List Port) :=
  (attachRoute d out).map (·.getD (addPort d.toPort out))

def attachWritten (out : List Port) : List String → Except PortError (List Port)
  | [] => .ok out
  | written :: rest =>
    match (Declaration.parse written).bind (attach · out) with
    | .ok out => attachWritten out rest
    | .error flaw => .error (.invalidProxy written flaw)

/-- The ports of an image. -/
def resolvePorts (image : String) (ports proxies exposed : List String) :
    Except PortError (List Port) := do
  let declared ← addWritten [] ports
  let proxied ← attachWritten declared proxies
  let out ← if needsInspection ports proxies then addWritten proxied exposed else .ok proxied
  if out.isEmpty then .error (.noPorts image) else return out

end ClusterPlan.Proxy
