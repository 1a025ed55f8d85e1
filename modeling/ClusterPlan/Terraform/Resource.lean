import ClusterPlan.Json.Basic
import ClusterPlan.Naming
import ClusterPlan.Registry.Basic

/-!
# Resources

Servers, keys and volumes as resources of the provisioner. Resources refer to one another by type,
identifier and attribute.
-/

namespace ClusterPlan.Terraform

open Entity Naming

/-- An attribute of another resource. -/
structure Reference where
  type : String
  id : String
  part : String
  deriving Repr, DecidableEq

def Reference.text (r : Reference) : String :=
  "$\x7b" ++ r.type ++ "." ++ r.id ++ "." ++ r.part ++ "\x7d"

def serverType : String := "hcloud_server"

def firewallType : String := "hcloud_firewall"

def keyType : String := "hcloud_ssh_key"

def volumeType : String := "hcloud_volume"

def attachmentType : String := "hcloud_volume_attachment"

/-- The only field of an object. -/
def single (name : String) (value : Json) : Json := .object [(name, value)]

/-- A document with resources, each with its type and its identifier. -/
def resources (all : List (String × String × List (String × Json))) : Json :=
  single "resource" (.object (all.map fun (type, id, fields) ↦ (type, single id (.object fields))))

def provider : Json :=
  .object
    [("terraform", single "required_providers" (single "hcloud" (.object
      [("source", .string "hetznercloud/hcloud"), ("version", .string "~> 1.45")]))),
    ("variable", single "hcloud_token" (.object
      [("type", .string "string"), ("sensitive", .bool true)])),
    ("provider", single "hcloud" (single "token" (.string "$\x7bvar.hcloud_token\x7d")))]

def optionalText : Option String → Json
  | some s => .string s
  | none => .null

def keyResource (key : SshKey) : Json :=
  resources [(keyType, identifier key.name,
    [("name", .string key.name), ("public_key", optionalText key.publicKey)])]

/-! ### Servers -/

def serverImage : String := "docker-ce"

/-- The ports that are open on every server. -/
def basePorts : List Nat := [22, 80, 443]

def insertPort (port : Nat) : List Nat → List Nat
  | [] => [port]
  | p :: rest =>
    if port < p then port :: p :: rest
    else if port = p then p :: rest
    else p :: insertPort port rest

/-- The open ports of a server in order, each once. -/
def openPorts (server : Server) : List Nat :=
  (basePorts ++ server.ports).foldl (fun ports port ↦ insertPort port ports) []

def firewallRule (port : Nat) : Json :=
  .object
    [("direction", .string "in"), ("protocol", .string "tcp"),
      ("port", .string (toString port)),
      ("source_ips", .array [.string "0.0.0.0/0", .string "::/0"])]

/-- The references to the keys of a server that have a public half. -/
def keyReferences (registry : Registry) (server : Server) : List Reference :=
  ((registry.keysOf server).filter (·.publicKey.isSome)).map fun key ↦
    ⟨keyType, identifier key.name, "id"⟩

def firewallReference (server : Server) : Reference :=
  ⟨firewallType, identifier server.name, "id"⟩

def locationField : Option String → List (String × Json)
  | some location => [("location", .string location)]
  | none => []

def serverResource (registry : Registry) (server : Server) : Json :=
  let id := identifier server.name
  resources
    [(firewallType, id,
      [("name", .string (server.name ++ "-firewall")),
        ("rule", .array ((openPorts server).map firewallRule))]),
    (serverType, id,
      [("name", .string server.name), ("server_type", .string server.serverType),
        ("image", .string serverImage),
        ("ssh_keys", .array ((keyReferences registry server).map fun r ↦ .string r.text)),
        ("firewall_ids", .array [.string (firewallReference server).text]),
        ("labels", single "managed-by" (.string "shipyard"))] ++
      locationField server.location)]

/-! ### Volumes -/

def sizeLimit : Nat := Nat.pow 2 64 - 1

/-- The place of the server that claims a volume. -/
def volumeLocation (registry : Registry) (volume : Volume) : Option Reference :=
  (registry.serversClaiming volume.name).head?.map fun server ↦
    ⟨serverType, identifier server.name, "location"⟩

def volumeResource (registry : Registry) (volume : Volume) : Json :=
  resources [(volumeType, identifier volume.name,
    [("name", .string volume.name), ("size", .ofNat (Decimal.ceiling sizeLimit volume.size)),
      ("format", .string "ext4")] ++
    locationField ((volumeLocation registry volume).map (·.text)))]

end ClusterPlan.Terraform
