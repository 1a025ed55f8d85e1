import ClusterPlan.Registry.Basic

/-!
# References between entities

Servers refer to keys, services and volumes by name. The first name without an entity, in the order
of the servers and of these three lists, makes the registry dangle.
-/

namespace ClusterPlan

open Entity

structure UnknownReference where
  server : String
  field : String
  targetKind : Kind
  target : String
  deriving Repr, DecidableEq

def UnknownReference.message (e : UnknownReference) : String :=
  Kind.server.name ++ " \"" ++ e.server ++ "\": field \"" ++ e.field ++
    "\" references unknown " ++ e.targetKind.name ++ " \"" ++ e.target ++ "\""

namespace Registry

/-- Whether an entity of a kind has a name. -/
def has (r : Registry) (kind : Kind) (name : String) : Bool :=
  match kind with
  | .server => (r.server? name).isSome
  | .service => (r.service? name).isSome
  | .sshKey => (r.sshKey? name).isSome
  | .volume => (r.volume? name).isSome

/-- The references of a server in the order in which they are checked. -/
def referencesOf (server : Server) : List UnknownReference :=
  server.sshKeys.map (⟨server.name, "ssh_keys", .sshKey, ·⟩) ++
  server.services.map (⟨server.name, "services", .service, ·⟩) ++
  server.volumes.map (⟨server.name, "volumes", .volume, ·⟩)

def checkReferences (r : Registry) : Except UnknownReference Unit :=
  match (r.servers.flatMap referencesOf).find? fun ref ↦ !r.has ref.targetKind ref.target with
  | some ref => .error ref
  | none => .ok ()

/-! ### Ownership of volumes -/

/-- Volumes that no server claims, and volumes with the several servers that do. -/
structure Misowned where
  unclaimed : List String
  shared : List (String × List String)
  deriving Repr, DecidableEq

def Misowned.message (e : Misowned) : String :=
  let unclaimed :=
    if e.unclaimed.isEmpty then [] else ["unclaimed volumes: " ++ ", ".intercalate e.unclaimed]
  let shared := e.shared.map fun (volume, servers) ↦
    "volume \"" ++ volume ++ "\" claimed by several servers: " ++ ", ".intercalate servers
  "every volume needs exactly one server; " ++ "; ".intercalate (unclaimed ++ shared)

/-- The names of the servers that claim a volume. -/
def owners (r : Registry) (volume : Volume) : List String :=
  (r.serversClaiming volume.name).map (·.name)

def misowned (r : Registry) : Misowned :=
  ⟨(r.volumes.filter fun v ↦ (r.owners v).isEmpty).map (·.name),
    (r.volumes.filter fun v ↦ 1 < (r.owners v).length).map fun v ↦ (v.name, r.owners v)⟩

/-- Every volume must be claimed by exactly one server. -/
def checkOwnership (r : Registry) : Except Misowned Unit :=
  let found := r.misowned
  if found.unclaimed.isEmpty && found.shared.isEmpty then .ok () else .error found

end Registry

end ClusterPlan
