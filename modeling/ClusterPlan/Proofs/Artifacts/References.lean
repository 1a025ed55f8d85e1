import ClusterPlan.Proofs.Artifacts.Kept
import ClusterPlan.Proofs.Terraform.MountScript

/-!
# References between resources

Every reference that is put into a resource leads to a resource that is made for the same registry:
a server refers to keys with a public half only, which are the keys that become resources, and to
the firewall that is made with it; a volume lies where a server of the registry does; and an
attachment joins a server and a volume that both have resources. This holds for every registry,
whether its references and volumes are in order or not, since names that lead nowhere are left out.

The resources that are made are those that the provisioning files are written with. Each of these
files is kept if the items are apart.
-/

namespace ClusterPlan.Artifact

open Entity Naming Terraform

-- Identifiers are only compared here, never computed.
attribute [local irreducible] identifier

/-- One of the resources that are made for a registry stands where a reference leads. -/
def Defined (registry : Registry) (ref : Reference) : Prop :=
  ∃ item ∈ items registry, ∃ json, item.resource registry = .ok json ∧ Holds json (ref.type, ref.id)

def hostReference (server : Server) : Reference :=
  ⟨serverType, identifier server.name, "ipv4_address"⟩

def serverReference (server : Server) : Reference := ⟨serverType, identifier server.name, "id"⟩

def volumeReference (volume : Volume) : Reference := ⟨volumeType, identifier volume.name, "id"⟩

section Defined

variable {registry : Registry} {ref : Reference}

theorem defined_of_mem_addresses {item : Item} {json : Json} (hitem : item ∈ items registry)
    (hjson : item.resource registry = .ok json) (h : (ref.type, ref.id) ∈ item.addresses) :
    Defined registry ref :=
  ⟨item, hitem, json, hjson, (holds_iff_mem_addresses hjson _).mpr h⟩

theorem defined_of_server {server : Server} (hserver : server ∈ registry.servers)
    (htype : ref.type = serverType ∨ ref.type = firewallType)
    (hid : ref.id = identifier server.name) : Defined registry ref := by
  apply defined_of_mem_addresses (server_mem_items.mpr hserver) rfl
  rw [Item.addresses, hid, List.mem_pair]
  rcases htype with htype | htype
  · exact .inr (by rw [htype])
  · exact .inl (by rw [htype])

theorem defined_of_volume {volume : Volume} (hvolume : volume ∈ registry.volumes)
    (htype : ref.type = volumeType) (hid : ref.id = identifier volume.name) :
    Defined registry ref := by
  apply defined_of_mem_addresses (volume_mem_items.mpr hvolume) rfl
  rw [Item.addresses, hid, htype, List.mem_singleton]

theorem defined_of_mem_keyReferences {server : Server} (h : ref ∈ keyReferences registry server) :
    Defined registry ref := by
  obtain ⟨key, hkey, href⟩ := List.mem_map.mp h
  obtain ⟨hkeys, hpublic⟩ := List.mem_filter.mp hkey
  obtain ⟨name, -, hname⟩ := List.mem_filterMap.mp hkeys
  have hmem : key ∈ registry.sshKeys := List.mem_of_find?_eq_some hname
  apply defined_of_mem_addresses (key_mem_items.mpr ⟨hmem, hpublic⟩) rfl
  rw [← href, Item.addresses, List.mem_singleton]

theorem defined_of_volumeLocation {volume : Volume}
    (h : volumeLocation registry volume = some ref) : Defined registry ref := by
  obtain ⟨server, hserver, href⟩ := Option.map_eq_some_iff.mp h
  have hmem : server ∈ registry.servers :=
    (List.mem_filter.mp (List.mem_of_head? hserver)).1
  rw [← href]
  exact defined_of_server hmem (.inl rfl) rfl

end Defined

/-! ### References in resources -/

/-- What stands in the fields of resources that refer to others, and that it is defined by what is
written. -/
structure ReferencesClosed (registry : Registry) : Prop where
  written : ∀ layout, (writeProvisioning layout registry).Sound → ∀ path text,
    .writeText path text ∈ (writeProvisioning layout registry).steps ↔
      ∃ item ∈ items registry, ∃ json, item.resource registry = .ok json ∧
        path = item.file layout ∧ text = resourceText json
  kept : ∀ layout, Apart layout (items registry) → ∀ tree after,
    (writeProvisioning layout registry).Makes tree after →
      ∀ item ∈ items registry, item.KeptIn layout registry after
  keys : ∀ server ∈ registry.servers,
    (serverResource registry server).at?
        ["resource", serverType, identifier server.name, "ssh_keys"] =
      some (.array ((keyReferences registry server).map fun ref ↦ .string ref.text)) ∧
    ∀ ref ∈ keyReferences registry server, Defined registry ref
  firewall : ∀ server ∈ registry.servers,
    (serverResource registry server).at?
        ["resource", serverType, identifier server.name, "firewall_ids"] =
      some (.array [.string (firewallReference server).text]) ∧
    Defined registry (firewallReference server)
  location : ∀ volume ∈ registry.volumes,
    (volumeResource registry volume).at?
        ["resource", volumeType, identifier volume.name, "location"] =
      (volumeLocation registry volume).map (fun ref ↦ .string ref.text) ∧
    ∀ ref ∈ volumeLocation registry volume, Defined registry ref
  attached : ∀ server volume json, (server, volume) ∈ attachmentPairs registry →
    attachmentResource registry server volume = .ok json →
      json.at? ["resource", attachmentType, attachmentId server volume, "volume_id"] =
        some (.string (volumeReference volume).text) ∧
      json.at? ["resource", attachmentType, attachmentId server volume, "server_id"] =
        some (.string (serverReference server).text) ∧
      json.at? ["resource", attachmentType, attachmentId server volume, "connection", "host"] =
        some (.string (hostReference server).text) ∧
      Defined registry (volumeReference volume) ∧ Defined registry (serverReference server) ∧
      Defined registry (hostReference server)
  mounted : ∀ server volume json, (server, volume) ∈ attachmentPairs registry →
    attachmentResource registry server volume = .ok json →
      json.at? ["resource", attachmentType, attachmentId server volume, "provisioner"] =
        some (.array [single "remote-exec" (single "inline"
          (.array ((mountLines (deviceReference volume) volume.path).map .string)))]) ∧
      Defined registry (deviceReference volume)

theorem at?_serverResource (registry : Registry) (server : Server) (field : String) :
    (serverResource registry server).at? ["resource", serverType, identifier server.name, field] =
      (Json.object ([("name", .string server.name), ("server_type", .string server.serverType),
        ("image", .string serverImage),
        ("ssh_keys", .array ((keyReferences registry server).map fun r ↦ .string r.text)),
        ("firewall_ids", .array [.string (firewallReference server).text]),
        ("labels", single "managed-by" (.string "shipyard"))] ++
        locationField server.location)).at? [field] := by
  rw [serverResource]
  apply at?_of_mem
  · change [firewallType, serverType].Nodup
    decide
  · exact .tail _ (.head _)

theorem referencesClosed (registry : Registry) : ReferencesClosed registry where
  written layout hsound path text := by
    rw [writeProvisioning_of_sound hsound]
    exact writeText_mem_steps_writeResources
  kept _ hapart _ _ := keptIn_of_writeProvisioning hapart
  keys server hserver := by
    refine ⟨?_, fun ref href ↦ defined_of_mem_keyReferences href⟩
    rw [at?_serverResource]
    cases server.location with
    | none => rfl
    | some location => rfl
  firewall server hserver := by
    refine ⟨?_, defined_of_server hserver (.inr rfl) rfl⟩
    rw [at?_serverResource]
    cases server.location with
    | none => rfl
    | some location => rfl
  location volume hvolume := by
    refine ⟨?_, fun ref href ↦ defined_of_volumeLocation href⟩
    rw [volumeResource, at?_resources_singleton]
    cases volumeLocation registry volume with
    | none => rfl
    | some ref => rfl
  attached server volume json hpair hjson := by
    obtain ⟨key, script, -, -, hattachment⟩ := attachmentResource_eq_ok_iff.mp hjson
    have hmem := mem_of_mem_attachmentPairs hpair
    rw [← hattachment, attachmentOf]
    refine ⟨?_, ?_, ?_, defined_of_volume hmem.2 rfl rfl, defined_of_server hmem.1 (.inl rfl) rfl,
      defined_of_server hmem.1 (.inl rfl) rfl⟩
    · rw [at?_resources_singleton]
      rfl
    · rw [at?_resources_singleton]
      rfl
    · rw [at?_resources_singleton]
      rfl
  mounted server volume json hpair hjson := by
    obtain ⟨key, script, -, hscript, hattachment⟩ := attachmentResource_eq_ok_iff.mp hjson
    have hmem := mem_of_mem_attachmentPairs hpair
    refine ⟨?_, defined_of_volume hmem.2 rfl rfl⟩
    rw [← (mountScript_eq_ok_iff.mp hscript).2, ← hattachment, attachmentOf,
      at?_resources_singleton]
    rfl

end ClusterPlan.Artifact
