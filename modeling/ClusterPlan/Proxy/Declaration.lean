import ClusterPlan.Proxy.Port

/-!
# Proxy declarations

A declaration `[strategy://]domain[:ports][/path]` says where a port answers. Its ports are written
as those of an image and default to port 80, its path defaults to `/`.
-/

namespace ClusterPlan.Proxy

structure Declaration where
  route : Route
  port : Port
  deriving Repr, DecidableEq

/-- What is wrong with a declaration. -/
inductive ProxyFlaw where
  | unknownStrategy (e : Strategy.Unknown)
  | missingDomain
  | notDomain (domain : String)
  | blankInPath
  | port (flaw : PortFlaw)
  | contradiction (declared proxied : Port)
  deriving Repr, DecidableEq

inductive PortError where
  | invalid (written : String) (flaw : PortFlaw)
  | invalidProxy (written : String) (flaw : ProxyFlaw)
  | noPorts (image : String)
  deriving Repr, DecidableEq

/-- `fieldName` is what one of the numbers is called. -/
def PortFlaw.message (fieldName : String) : PortFlaw → String
  | empty => "empty"
  | notNumber field => "\"" ++ field ++ "\" is not a port number"
  | tooMany => "expected at most three " ++ fieldName ++ "s"

def ProxyFlaw.message : ProxyFlaw → String
  | unknownStrategy e => e.message
  | missingDomain => "missing domain"
  | notDomain domain => "\"" ++ domain ++ "\" is not a domain name"
  | blankInPath => "path contains whitespace"
  | port flaw => flaw.message "port field"
  | contradiction declared proxied =>
    "container port " ++ declared.container ++ " is already declared as " ++ declared.text ++
      ", which the proxy would change to " ++ proxied.text

def PortError.message : PortError → String
  | invalid written flaw => "invalid port \"" ++ written ++ "\": " ++ flaw.message "field"
  | invalidProxy written flaw => "invalid proxy \"" ++ written ++ "\": " ++ flaw.message
  | noPorts image => "image " ++ image ++ " declares no ports, no proxies and exposes none"

namespace Declaration

def defaultPorts : String := "80"

def defaultPath : String := "/"

def isDomainChar (c : Char) : Bool :=
  c.isAlphanum || c == '.' || c == '-' || c == '*' || c == '_'

def strategyAndRest (cs : List Char) :
    Except Strategy.Unknown (Option Strategy × List Char) :=
  match Text.splitFirstText? "://".toList cs with
  | some (scheme, rest) =>
    (Strategy.parse (String.ofList scheme)).map fun strategy ↦ (some strategy, rest)
  | none => .ok (none, cs)

/-- What stands before the first slash, and the path from there on. -/
def authorityAndPath (cs : List Char) : List Char × String :=
  let path := cs.dropWhile (· != '/')
  (cs.takeWhile (· != '/'), if path.isEmpty then defaultPath else String.ofList path)

def domainAndPorts (authority : List Char) : String × String :=
  match Text.splitFirst? ':' authority with
  | some (domain, ports) => (String.ofList domain, String.ofList ports)
  | none => (String.ofList authority, defaultPorts)

def checkParts (domain path : String) : Except ProxyFlaw Unit :=
  if domain.isEmpty then .error .missingDomain
  else if !domain.toList.all isDomainChar then .error (.notDomain domain)
  else if path.toList.any Text.isBlank then .error .blankInPath
  else .ok ()

def lowerDomain (domain : String) : String := String.ofList (domain.toList.map Char.toLower)

def parse (written : String) : Except ProxyFlaw Declaration := do
  let (strategy, rest) ←
    (strategyAndRest (Text.trim written).toList).mapError .unknownStrategy
  let (authority, path) := authorityAndPath rest
  let (domain, ports) := domainAndPorts authority
  checkParts domain path
  let port ← (Port.parse ports).mapError .port
  return ⟨⟨lowerDomain domain, path, strategy⟩, port⟩

/-- The port with the route of the declaration. -/
def toPort (d : Declaration) : Port := { d.port with routes := d.port.routes ++ [d.route] }

end Declaration

end ClusterPlan.Proxy
