import ClusterPlan.Artifacts.Error
import ClusterPlan.Deployment.Basic

/-!
# Checks of deployments

The images of a server must have names of their own, because services and pools go by them, and no
port of the server may be bound twice, by its images or by the proxy.
-/

namespace ClusterPlan.Deployment

/-- Add a value to the group of a key. Groups stand in the order of their keys. -/
def addToGroup {κ α : Type} [DecidableEq κ] (before : κ → κ → Bool) (key : κ) (value : α) :
    List (κ × List α) → List (κ × List α)
  | [] => [(key, [value])]
  | (k, values) :: rest =>
    if k = key then (k, values ++ [value]) :: rest
    else if before key k then (key, [value]) :: (k, values) :: rest
    else (k, values) :: addToGroup before key value rest

def groups {κ α : Type} [DecidableEq κ] (before : κ → κ → Bool) (pairs : List (κ × α)) :
    List (κ × List α) :=
  pairs.foldl (fun groups (key, value) ↦ addToGroup before key value groups) []

/-- The first group with more than one member. -/
def firstShared? {κ α : Type} (groups : List (κ × List α)) : Option (κ × List α) :=
  groups.find? fun (_, values) ↦ 1 < values.length

/-! ### Names of images -/

/-- The name of each image with its reference in full. -/
def named (d : Deployment) : List (String × String) :=
  d.images.map fun i ↦ (i.image.name, i.image.qualified)

def checkImageNames (d : Deployment) : Except ArtifactError Unit :=
  match firstShared? (groups (fun a b ↦ a < b) d.named) with
  | some (name, references) => .error (.duplicateImage d.server name references)
  | none => .ok ()

/-! ### Ports of the server -/

def portNumber? (port : String) : Option Nat :=
  Decimal.readBounded? Proxy.Port.limit port.toList

def boundNumber? (port : Proxy.Port) : Option Nat := port.bound?.bind portNumber?

/-- Each port of the server that is bound, with the image that binds it. -/
def bindings (d : Deployment) : List (Nat × String) :=
  d.images.flatMap fun i ↦
    i.ports.filterMap fun port ↦ (boundNumber? port).map (·, i.image.name)

def checkHostPorts (d : Deployment) : Except ArtifactError Unit :=
  match firstShared? (groups (fun a b ↦ a < b) d.bindings) with
  | some (port, images) => .error (.portConflict d.server (toString port) images)
  | none => .ok ()

/-- The name of the proxy among the services of a server. -/
def proxyName : String := "nginx"

/-- The images that bind the port of a listener on the server. -/
def rivals (d : Deployment) (listenPort : String) : List String :=
  (d.images.filter fun i ↦ i.ports.any fun port ↦
    match boundNumber? port, portNumber? listenPort with
    | some a, some b => a == b
    | _, _ => false).map (·.image.name)

/-- No image may bind a port that the proxy listens on. -/
def checkProxyPorts (d : Deployment) (plan : Proxy.Plan) : Except ArtifactError Unit :=
  match plan.listenPorts.find? fun port ↦ !(d.rivals port).isEmpty with
  | some port => .error (.portConflict d.server port (d.rivals port ++ [proxyName]))
  | none => .ok ()

end ClusterPlan.Deployment
