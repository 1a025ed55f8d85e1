import ClusterPlan.Decimal.Reader
import ClusterPlan.Proxy.Strategy
import ClusterPlan.Text.Blank
import ClusterPlan.Text.Split

/-!
# Ports of images

How one port of a container is reached. It is written as one to three numbers between colons: the
port that the proxy listens on, the port that is bound on the server, and the port of the container.
A single number stands for the first and the last. When the first two are the same, the port is
published on the server directly and the proxy has no part in it.
-/

namespace ClusterPlan.Proxy

/-- Where a proxied port answers. -/
structure Route where
  domain : String
  path : String
  strategy : Option Strategy
  deriving Repr, DecidableEq

/-- A port without `proxyPort` is private; without `host` it is bound on no server. -/
structure Port where
  proxyPort : Option String
  host : Option String
  container : String
  direct : Bool
  routes : List Route
  deriving Repr, DecidableEq

/-- What is wrong with the numbers of a port. -/
inductive PortFlaw where
  | empty
  | notNumber (field : String)
  | tooMany
  deriving Repr, DecidableEq

namespace Port

/-- A port that is reached from inside the server alone. -/
def containerOnly (container : String) : Port := ⟨none, none, container, false, []⟩

/-- The port that is taken on the server itself. -/
def bound? (port : Port) : Option String := if port.direct then port.proxyPort else port.host

def isProxied (port : Port) : Bool := port.proxyPort.isSome && !port.direct

/-- Ports of the same key are the same port. -/
def key (port : Port) : Option String × Option String × String :=
  (port.proxyPort, port.host, port.container)

def text (port : Port) : String :=
  let proxy := port.proxyPort.getD "-"
  match port.direct, port.host with
  | true, _ => proxy ++ ":" ++ proxy ++ ":" ++ port.container
  | false, some host => proxy ++ ":" ++ host ++ ":" ++ port.container
  | false, none => proxy ++ ":" ++ port.container

/-! ### Reading -/

def limit : Nat := 65535

/-- The decimal text of a port number, from one that may have a plus and zeros in front. -/
def number? (field : List Char) : Option String :=
  ((Decimal.readBounded? limit field).filter (0 < ·)).map toString

def numbers : List (List Char) → Except PortFlaw (List String)
  | [] => .ok []
  | field :: rest =>
    match number? field with
    | none => .error (.notNumber (String.ofList field))
    | some n => (numbers rest).map (n :: ·)

/-- The numbers between the colons of a text. -/
def fields (written : String) : Except PortFlaw (List String) :=
  let trimmed := Text.trim written
  if trimmed.isEmpty then .error .empty else numbers (Text.splitAt ':' trimmed.toList)

def ofFields : List String → Except PortFlaw Port
  | [port] => .ok ⟨some port, none, port, false, []⟩
  | [proxy, container] => .ok ⟨some proxy, none, container, false, []⟩
  | [proxy, host, container] =>
    if host = proxy then .ok ⟨some proxy, none, container, true, []⟩
    else .ok ⟨some proxy, some host, container, false, []⟩
  | _ => .error .tooMany

def parse (written : String) : Except PortFlaw Port :=
  match fields written with
  | .ok fields => ofFields fields
  | .error flaw => .error flaw

end Port

end ClusterPlan.Proxy
