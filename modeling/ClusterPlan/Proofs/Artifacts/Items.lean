import ClusterPlan.Artifacts.Provisioning
import ClusterPlan.Proofs.Except
import ClusterPlan.Proofs.Terraform.Addresses

/-!
# Resource files as items

What the provisioner is given is a list of items, each with a file of its own and the resource that
the file holds: the provider, the keys with a public half, servers, volumes, and the attachments of
volumes to servers. Writing the provisioning files is writing these items, attachments behind the
others. Only an attachment can be without a resource, when no key of its server can open a
connection or the volume has no mount script.
-/

namespace ClusterPlan.Artifact

open Entity Naming Terraform

inductive Item where
  | provider
  | key (key : SshKey)
  | server (server : Server)
  | volume (volume : Volume)
  | attachment (server : Server) (volume : Volume)

namespace Item

def fileName : Item → String
  | .provider => providerName
  | .key k => keyFileName k
  | .server s => serverFileName s
  | .volume v => volumeFileName v
  | .attachment s v => attachmentFileName s v

section FileName

variable (key : SshKey) (server : Server) (volume : Volume)

theorem fileName_key : (Item.key key).fileName = "ssh_key_" ++ identifier key.name := by
  rw [fileName, keyFileName]

theorem fileName_server : (Item.server server).fileName = "server_" ++ identifier server.name := by
  rw [fileName, serverFileName]

theorem fileName_volume : (Item.volume volume).fileName = "volume_" ++ identifier volume.name := by
  rw [fileName, volumeFileName]

theorem fileName_attachment :
    (Item.attachment server volume).fileName =
      "volume_attachment_" ++ attachmentId server volume := rfl

end FileName

def file (layout : Layout) (item : Item) : String := resourceFile layout item.fileName

def resource (registry : Registry) : Item → Except ArtifactError Json
  | .provider => .ok Terraform.provider
  | .key k => .ok (keyResource k)
  | .server s => .ok (serverResource registry s)
  | .volume v => .ok (volumeResource registry v)
  | .attachment s v => attachmentResource registry s v

/-- The addresses of the resources of an item. A server comes with its firewall. -/
def addresses : Item → List Address
  | .provider => []
  | .key k => [(keyType, identifier k.name)]
  | .server s => [(firewallType, identifier s.name), (serverType, identifier s.name)]
  | .volume v => [(volumeType, identifier v.name)]
  | .attachment s v => [(attachmentType, attachmentId s v)]

def write (layout : Layout) (registry : Registry) (item : Item) : Writing :=
  match item.resource registry with
  | .ok resource => writeResource layout item.fileName resource
  | .error e => Change.fail e

theorem write_of_resource {layout : Layout} {registry : Registry} {item : Item} {json : Json}
    (h : item.resource registry = .ok json) :
    item.write layout registry = writeResource layout item.fileName json := by
  rw [write, h]

end Item

def keyItems (registry : Registry) : List Item :=
  (registry.sshKeys.filter (·.publicKey.isSome)).map .key

def attachmentItems (registry : Registry) : List Item :=
  (attachmentPairs registry).map fun (server, volume) ↦ .attachment server volume

/-- The items that are written first. -/
def entityItems (registry : Registry) : List Item :=
  .provider :: (keyItems registry ++ registry.servers.map .server ++ registry.volumes.map .volume)

def items (registry : Registry) : List Item := entityItems registry ++ attachmentItems registry

section Membership

variable {registry : Registry}

theorem key_mem_items {key : SshKey} :
    .key key ∈ items registry ↔ key ∈ registry.sshKeys ∧ key.publicKey.isSome := by
  simp [items, entityItems, keyItems, attachmentItems]

theorem server_mem_items {server : Server} :
    .server server ∈ items registry ↔ server ∈ registry.servers := by
  simp [items, entityItems, keyItems, attachmentItems]

theorem volume_mem_items {volume : Volume} :
    .volume volume ∈ items registry ↔ volume ∈ registry.volumes := by
  simp [items, entityItems, keyItems, attachmentItems]

theorem attachment_mem_items {server : Server} {volume : Volume} :
    .attachment server volume ∈ items registry ↔
      (server, volume) ∈ attachmentPairs registry := by
  simp [items, entityItems, keyItems, attachmentItems]

/-- A server is only given volumes of the registry. -/
theorem mem_attachmentPairs {server : Server} {volume : Volume} :
    (server, volume) ∈ attachmentPairs registry ↔
      server ∈ registry.servers ∧ volume ∈ registry.volumesOf server := by
  simp [attachmentPairs]

theorem mem_volumes_of_mem_volumesOf {server : Server} {volume : Volume}
    (h : volume ∈ registry.volumesOf server) : volume ∈ registry.volumes := by
  obtain ⟨name, -, hname⟩ := List.mem_filterMap.mp h
  exact List.mem_of_find?_eq_some hname

end Membership

/-! ### What is in a file -/

theorem attachmentResource_eq_ok_iff {registry : Registry} {server : Server} {volume : Volume}
    {json : Json} :
    attachmentResource registry server volume = .ok json ↔
      ∃ key script, registry.connectionKey? server = some key ∧ mountScript volume = .ok script ∧
        attachmentOf server volume key script = json := by
  unfold attachmentResource
  cases registry.connectionKey? server with
  | none => simp
  | some key => simp [Except.map_eq_ok_iff]

theorem holds_iff_mem_addresses {registry : Registry} {item : Item} {json : Json}
    (h : item.resource registry = .ok json) (address : Address) :
    Holds json address ↔ address ∈ item.addresses := by
  cases item with
  | provider =>
    have hnone : Terraform.provider.at? ["resource", address.1, address.2] = none := rfl
    rw [← Except.ok.inj h, Holds, hnone]
    simp [Item.addresses]
  | key k =>
    rw [← Except.ok.inj h, keyResource, holds_resources_iff, List.map_singleton, addressOf,
      Item.addresses]
    exact List.nodup_singleton keyType
  | server s =>
    rw [← Except.ok.inj h, serverResource, holds_resources_iff, List.map_cons, List.map_singleton,
      addressOf, addressOf, Item.addresses]
    change [firewallType, serverType].Nodup
    decide
  | volume v =>
    rw [← Except.ok.inj h, volumeResource, holds_resources_iff, List.map_singleton, addressOf,
      Item.addresses]
    exact List.nodup_singleton volumeType
  | attachment s v =>
    obtain ⟨key, script, -, -, hjson⟩ := attachmentResource_eq_ok_iff.mp h
    rw [← hjson, attachmentOf, holds_resources_iff, List.map_singleton, addressOf, Item.addresses]
    exact List.nodup_singleton attachmentType

/-! ### What is written -/

section Writing

variable (layout : Layout) (registry : Registry)

theorem join_write {α : Type} (as : List α) (item : α → Item) (json : α → Json)
    (h : ∀ a, (item a).resource registry = .ok (json a)) :
    Change.join (as.map fun a ↦ writeResource layout (item a).fileName (json a)) =
      Change.join ((as.map item).map (·.write layout registry)) := by
  rw [List.map_map]
  congr 1
  apply List.map_congr_left
  intro a _
  rw [Function.comp_apply, Item.write_of_resource (h a)]

theorem writeKeyResources_eq :
    writeKeyResources layout registry =
      Change.join ((keyItems registry).map (·.write layout registry)) :=
  join_write layout registry _ .key keyResource fun _ ↦ rfl

theorem writeServers_eq :
    writeServers layout registry =
      Change.join ((registry.servers.map Item.server).map (·.write layout registry)) :=
  join_write layout registry _ .server (serverResource registry) fun _ ↦ rfl

theorem writeVolumes_eq :
    writeVolumes layout registry =
      Change.join ((registry.volumes.map Item.volume).map (·.write layout registry)) :=
  join_write layout registry _ .volume (volumeResource registry) fun _ ↦ rfl

theorem writeAttachments_eq :
    writeAttachments layout registry =
      Change.join ((attachmentItems registry).map (·.write layout registry)) := by
  rw [writeAttachments, attachmentItems, List.map_map]
  exact congrArg Change.join (List.map_congr_left fun _ _ ↦ rfl)

end Writing

end ClusterPlan.Artifact
