import ClusterPlan.Entity.Options
import ClusterPlan.Naming

/-!
# Servers

Machines that run services. The name of a server is its host name.
-/

namespace ClusterPlan.Entity

structure Server where
  name : String
  serverType : String
  location : Option String
  sshKeys : List String
  services : List String
  volumes : List String
  ports : List Nat
  environment : List (String × String)
  deriving Repr, DecidableEq

namespace Server

def fields : List String :=
  ["server_type", "location", "ssh_keys", "services", "volumes", "ports", "environment"]

def ofOptions (name : String) (options : Options) : Except Complaint Server := do
  options.checkKnown fields
  return {
    name
    serverType := ← options.requiredText "server_type"
    location := ← options.text? "location"
    sshKeys := ← options.requiredTexts "ssh_keys" false
    services := ← options.requiredTexts "services" false
    volumes := ← options.texts "volumes" false
    ports := ← options.ports "ports"
    environment := ← options.textMap "environment" }

def build (name : String) (options : Yaml) : Except Invalid Server :=
  built .server name <| do
    let options ← Options.ofYaml options
    if Naming.isHostname name then ofOptions name options else .error .notHostname

def runs (server : Server) (service : String) : Bool := server.services.contains service

def claims (server : Server) (volume : String) : Bool := server.volumes.contains volume

end Server

end ClusterPlan.Entity
