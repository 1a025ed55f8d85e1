import ClusterPlan.Entity.Server
import ClusterPlan.Entity.Service
import ClusterPlan.Entity.SshKey
import ClusterPlan.Entity.Volume

/-!
# The registry

The entities of a cluster by kind, each kind in the order in which its entities were accepted. A
name is accepted once for each kind.
-/

namespace ClusterPlan

open Entity

structure Registry where
  servers : List Server
  services : List Service
  sshKeys : List SshKey
  volumes : List Volume

namespace Registry

def empty : Registry := ⟨[], [], [], []⟩

instance : EmptyCollection Registry := ⟨empty⟩

/-! ### Look-ups -/

def server? (r : Registry) (name : String) : Option Server := r.servers.find? (·.name == name)

def service? (r : Registry) (name : String) : Option Service := r.services.find? (·.name == name)

def sshKey? (r : Registry) (name : String) : Option SshKey := r.sshKeys.find? (·.name == name)

def volume? (r : Registry) (name : String) : Option Volume := r.volumes.find? (·.name == name)

def serversRunning (r : Registry) (service : String) : List Server :=
  r.servers.filter (·.runs service)

def serversClaiming (r : Registry) (volume : String) : List Server :=
  r.servers.filter (·.claims volume)

/-- The keys that a server lists, those that do not exist left out. -/
def keysOf (r : Registry) (server : Server) : List SshKey := server.sshKeys.filterMap r.sshKey?

/-- The first key of a server that can open a connection. -/
def connectionKey? (r : Registry) (server : Server) : Option SshKey :=
  (r.keysOf server).find? (·.canConnect)

def servicesOf (r : Registry) (server : Server) : List Service :=
  server.services.filterMap r.service?

def volumesOf (r : Registry) (server : Server) : List Volume := server.volumes.filterMap r.volume?

/-! ### Insertion -/

def insertServer (r : Registry) (server : Server) : Except Invalid Registry :=
  if (r.server? server.name).isSome then .error ⟨.server, server.name, .duplicate⟩
  else .ok { r with servers := r.servers ++ [server] }

def insertService (r : Registry) (service : Service) : Except Invalid Registry :=
  if (r.service? service.name).isSome then .error ⟨.service, service.name, .duplicate⟩
  else .ok { r with services := r.services ++ [service] }

def insertSshKey (r : Registry) (key : SshKey) : Except Invalid Registry :=
  if (r.sshKey? key.name).isSome then .error ⟨.sshKey, key.name, .duplicate⟩
  else .ok { r with sshKeys := r.sshKeys ++ [key] }

def insertVolume (r : Registry) (volume : Volume) : Except Invalid Registry :=
  if (r.volume? volume.name).isSome then .error ⟨.volume, volume.name, .duplicate⟩
  else .ok { r with volumes := r.volumes ++ [volume] }

/-- Build the entity of a kind from its options and insert it. -/
def add (r : Registry) (kind : Kind) (name : String) (options : Yaml) :
    Except Invalid Registry :=
  match kind with
  | .server => (Server.build name options).bind r.insertServer
  | .service => (Service.build name options).bind r.insertService
  | .sshKey => (SshKey.build name options).bind r.insertSshKey
  | .volume => (Volume.build name options).bind r.insertVolume

end Registry

end ClusterPlan
