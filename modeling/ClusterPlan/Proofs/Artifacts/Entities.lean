import ClusterPlan.Proofs.Artifacts.Separation
import ClusterPlan.Proofs.Registry.Names

/-!
# Resources of entities

Names are accepted once for each kind as they are written, but resources are named by identifiers,
and different names can have the same one: names that differ only in what an identifier does not
keep, and names of which one starts with a digit and the other is the same behind `r-`. So a
registry that was read from a document gives each server, volume and key a file and a resource of
its own exactly when no two names of a kind coincide in this way.
-/

namespace ClusterPlan.Artifact

open Entity Naming Terraform

/-- Different servers, volumes and keys have different identifiers, and what is written for them is
apart. -/
structure EntitiesApart (layout : Layout) (registry : Registry) : Prop where
  servers : ∀ a ∈ registry.servers, ∀ b ∈ registry.servers,
    identifier a.name = identifier b.name → a = b
  volumes : ∀ a ∈ registry.volumes, ∀ b ∈ registry.volumes,
    identifier a.name = identifier b.name → a = b
  keys : ∀ a ∈ registry.sshKeys, ∀ b ∈ registry.sshKeys,
    identifier a.name = identifier b.name → a = b
  resources : Apart layout (entityItems registry)

theorem mem_items_of_mem_entityItems {registry : Registry} {item : Item}
    (h : item ∈ entityItems registry) : item ∈ items registry :=
  List.mem_append_left _ h

theorem attachment_notMem_entityItems {registry : Registry} {server : Server} {volume : Volume} :
    .attachment server volume ∉ entityItems registry := by
  simp [entityItems, keyItems]

section Names

variable {registry : Registry}

/-- Where names are all different, identifiers tell the entities of a list apart as far as the names
do not coincide. -/
theorem eq_of_identifier_eq_iff {α : Type} {entities : List α} {nameOf : α → String}
    (h : (entities.map nameOf).Nodup) :
    (∀ a ∈ entities, ∀ b ∈ entities, identifier (nameOf a) = identifier (nameOf b) → a = b) ↔
      ∀ a ∈ entities.map nameOf, ∀ b ∈ entities.map nameOf, Coincide a b → a = b := by
  simp only [List.forall_mem_map, identifier_eq_iff]
  constructor
  · intro hentities a ha b hb hcoincide
    rw [hentities a ha b hb hcoincide]
  · intro hnames a ha b hb hcoincide
    exact List.inj_on_of_nodup_map h ha hb (hnames a ha b hb hcoincide)

theorem apart_entityItems
    (hservers : ∀ a ∈ registry.servers, ∀ b ∈ registry.servers,
      identifier a.name = identifier b.name → a = b)
    (hvolumes : ∀ a ∈ registry.volumes, ∀ b ∈ registry.volumes,
      identifier a.name = identifier b.name → a = b)
    (hkeys : ∀ a ∈ registry.sshKeys, ∀ b ∈ registry.sshKeys,
      identifier a.name = identifier b.name → a = b) (layout : Layout) :
    Apart layout (entityItems registry) := by
  rw [apart_iff]
  intro a ha b hb hshares
  have ha' := mem_items_of_mem_entityItems ha
  have hb' := mem_items_of_mem_entityItems hb
  match a, b, hshares with
  | .provider, .provider, _ => rfl
  | .key k, .key k', hid =>
    rw [hkeys k (key_mem_items.mp ha').1 k' (key_mem_items.mp hb').1 hid]
  | .server s, .server s', hid =>
    rw [hservers s (server_mem_items.mp ha') s' (server_mem_items.mp hb') hid]
  | .volume v, .volume v', hid =>
    rw [hvolumes v (volume_mem_items.mp ha') v' (volume_mem_items.mp hb') hid]
  | .attachment .., _, _ => exact absurd ha attachment_notMem_entityItems
  | _, .attachment .., _ => exact absurd hb attachment_notMem_entityItems

/-- In a registry that was read, what entities have of their own depends on their names alone. -/
theorem entitiesApart_iff (layout : Layout) (h : registry.IsLoaded) :
    EntitiesApart layout registry ↔
      ∀ kind, kind ≠ .service → ∀ a ∈ registry.names kind, ∀ b ∈ registry.names kind,
        Coincide a b → a = b := by
  have hservers := eq_of_identifier_eq_iff (h.namesDistinct .server)
  have hvolumes := eq_of_identifier_eq_iff (h.namesDistinct .volume)
  have hkeys := eq_of_identifier_eq_iff (h.namesDistinct .sshKey)
  constructor
  · intro hapart kind hkind
    cases kind with
    | server => exact hservers.mp hapart.servers
    | service => exact absurd rfl hkind
    | sshKey => exact hkeys.mp hapart.keys
    | volume => exact hvolumes.mp hapart.volumes
  · intro hnames
    have hservers' := hservers.mpr (hnames .server (by decide))
    have hvolumes' := hvolumes.mpr (hnames .volume (by decide))
    have hkeys' := hkeys.mpr (hnames .sshKey (by decide))
    exact ⟨hservers', hvolumes', hkeys', apart_entityItems hservers' hvolumes' hkeys' layout⟩

end Names

/-! ### Two servers in one file -/

def doubledDashes : String :=
  "servers:\n" ++
  "  web-1:\n    server_type: cx22\n    ssh_keys: [ops]\n    services: [api]\n" ++
  "  web--1:\n    server_type: cx22\n    ssh_keys: [ops]\n    services: [api]\n"

/-- Both names are host names, and both have the identifier `web_1`. -/
theorem not_entitiesApart_doubledDashes :
    ∃ registry, Registry.parse doubledDashes = .ok registry ∧
      registry.names .server = ["web-1", "web--1"] ∧ ¬EntitiesApart ⟨"out"⟩ registry := by
  have hnames : (Registry.parse doubledDashes).toOption.map (·.names .server) =
      some ["web-1", "web--1"] := by decide +kernel
  obtain ⟨registry, hregistry, hservers⟩ := Option.map_eq_some_iff.mp hnames
  have hparse : Registry.parse doubledDashes = .ok registry := by
    cases hresult : Registry.parse doubledDashes with
    | ok found =>
      rw [hresult] at hregistry
      rw [Option.some.inj hregistry]
    | error e =>
      rw [hresult] at hregistry
      cases hregistry
  refine ⟨registry, hparse, hservers, fun h ↦ ?_⟩
  have hloaded : registry.IsLoaded := .inl ⟨_, hparse⟩
  have hall := (entitiesApart_iff _ hloaded).mp h .server (by decide)
  rw [hservers] at hall
  have hlabel : labelOf "web-1" = labelOf "web--1" := by decide +kernel
  have hsame := hall "web-1" (.head _) "web--1" (.tail _ (.head _)) (.inl hlabel)
  revert hsame
  decide

end ClusterPlan.Artifact
