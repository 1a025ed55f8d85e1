import ClusterPlan.Proofs.Activity
import ClusterPlan.Proofs.Except
import ClusterPlan.Registry.Document
import ClusterPlan.Registry.References
import Mathlib.Data.List.Nodup

/-!
# Names in a registry

An entity has the name that it stands under in the document, and a name is accepted once for each
kind. So no two entities of a kind have the same name in a registry that is read from a document,
whether its strings are rendered first or not. Only the names of servers must be such that a host
can have them; all other names stay as they are written.
-/

namespace ClusterPlan

open Entity

/-! ### Names of entities -/

namespace Entity

theorem built_eq_ok_iff {α : Type} {kind : Kind} {name : String} {result : Except Complaint α}
    {a : α} : built kind name result = .ok a ↔ result = .ok a :=
  Except.mapError_eq_ok_iff

theorem Server.name_of_build {name : String} {options : Yaml} {server : Server}
    (h : Server.build name options = .ok server) : server.name = name := by
  rw [Server.build, built_eq_ok_iff, Except.bind_eq_ok_iff] at h
  obtain ⟨fields, -, h⟩ := h
  split at h
  · simp only [Server.ofOptions, Except.bind_eq_ok_iff] at h
    obtain ⟨_, -, _, -, _, -, _, -, _, -, _, -, _, -, _, -, h⟩ := h
    rw [← Except.ok.inj h]
  · cases h

theorem Service.name_of_build {name : String} {options : Yaml} {service : Service}
    (h : Service.build name options = .ok service) : service.name = name := by
  rw [Service.build, built_eq_ok_iff, Except.bind_eq_ok_iff] at h
  obtain ⟨fields, -, h⟩ := h
  simp only [Service.ofOptions, Except.bind_eq_ok_iff] at h
  obtain ⟨_, -, _, -, _, -, _, -, _, -, _, -, h⟩ := h
  rw [← Except.ok.inj h]

theorem SshKey.name_of_build {name : String} {options : Yaml} {key : SshKey}
    (h : SshKey.build name options = .ok key) : key.name = name := by
  rw [SshKey.build, built_eq_ok_iff, Except.bind_eq_ok_iff] at h
  obtain ⟨fields, -, h⟩ := h
  simp only [SshKey.ofOptions, Except.bind_eq_ok_iff] at h
  obtain ⟨_, -, _, -, _, -, _, -, h⟩ := h
  split at h
  · cases h
  · rw [← Except.ok.inj h]

theorem Volume.name_of_build {name : String} {options : Yaml} {volume : Volume}
    (h : Volume.build name options = .ok volume) : volume.name = name := by
  rw [Volume.build, built_eq_ok_iff, Except.bind_eq_ok_iff] at h
  obtain ⟨fields, -, h⟩ := h
  simp only [Volume.ofOptions, Except.bind_eq_ok_iff] at h
  obtain ⟨_, -, _, -, _, -, h⟩ := h
  rw [← Except.ok.inj h]

end Entity

namespace Registry

/-- The names of the entities of a kind. -/
def names (r : Registry) : Kind → List String
  | .server => r.servers.map (·.name)
  | .service => r.services.map (·.name)
  | .sshKey => r.sshKeys.map (·.name)
  | .volume => r.volumes.map (·.name)

/-- No name stands twice for one kind. -/
def NamesDistinct (r : Registry) : Prop := ∀ kind, (r.names kind).Nodup

/-! ### Insertion -/

/-- The second registry has one more name, one that the kind does not have in the first. -/
structure Adds (r : Registry) (kind : Kind) (name : String) (r' : Registry) : Prop where
  fresh : name ∉ r.names kind
  added : r'.names kind = r.names kind ++ [name]
  others : ∀ other, other ≠ kind → r'.names other = r.names other

section Insertion

variable {r r' : Registry} {kind : Kind} {name : String}

theorem has_iff : r.has kind name = true ↔ name ∈ r.names kind := by
  cases kind with
  | server => simp [has, server?, names]
  | service => simp [has, service?, names]
  | sshKey => simp [has, sshKey?, names]
  | volume => simp [has, volume?, names]

theorem adds_of_insertServer {server : Server} (h : r.insertServer server = .ok r') :
    Adds r .server server.name r' := by
  unfold insertServer at h
  split at h
  · cases h
  next hfresh =>
    rw [← Except.ok.inj h]
    refine ⟨?_, List.map_append, fun other hother ↦ ?_⟩
    · exact fun hname ↦ hfresh (has_iff.mpr hname)
    · cases other with
      | server => exact absurd rfl hother
      | service | sshKey | volume => rfl

theorem adds_of_insertService {service : Service} (h : r.insertService service = .ok r') :
    Adds r .service service.name r' := by
  unfold insertService at h
  split at h
  · cases h
  next hfresh =>
    rw [← Except.ok.inj h]
    refine ⟨?_, List.map_append, fun other hother ↦ ?_⟩
    · exact fun hname ↦ hfresh (has_iff.mpr hname)
    · cases other with
      | service => exact absurd rfl hother
      | server | sshKey | volume => rfl

theorem adds_of_insertSshKey {key : SshKey} (h : r.insertSshKey key = .ok r') :
    Adds r .sshKey key.name r' := by
  unfold insertSshKey at h
  split at h
  · cases h
  next hfresh =>
    rw [← Except.ok.inj h]
    refine ⟨?_, List.map_append, fun other hother ↦ ?_⟩
    · exact fun hname ↦ hfresh (has_iff.mpr hname)
    · cases other with
      | sshKey => exact absurd rfl hother
      | server | service | volume => rfl

theorem adds_of_insertVolume {volume : Volume} (h : r.insertVolume volume = .ok r') :
    Adds r .volume volume.name r' := by
  unfold insertVolume at h
  split at h
  · cases h
  next hfresh =>
    rw [← Except.ok.inj h]
    refine ⟨?_, List.map_append, fun other hother ↦ ?_⟩
    · exact fun hname ↦ hfresh (has_iff.mpr hname)
    · cases other with
      | volume => exact absurd rfl hother
      | server | service | sshKey => rfl

theorem adds_of_add {options : Yaml} (h : r.add kind name options = .ok r') :
    Adds r kind name r' := by
  cases kind with
  | server =>
    obtain ⟨server, hbuild, hinsert⟩ := Except.bind_eq_ok_iff.mp h
    exact Server.name_of_build hbuild ▸ adds_of_insertServer hinsert
  | service =>
    obtain ⟨service, hbuild, hinsert⟩ := Except.bind_eq_ok_iff.mp h
    exact Service.name_of_build hbuild ▸ adds_of_insertService hinsert
  | sshKey =>
    obtain ⟨key, hbuild, hinsert⟩ := Except.bind_eq_ok_iff.mp h
    exact SshKey.name_of_build hbuild ▸ adds_of_insertSshKey hinsert
  | volume =>
    obtain ⟨volume, hbuild, hinsert⟩ := Except.bind_eq_ok_iff.mp h
    exact Volume.name_of_build hbuild ▸ adds_of_insertVolume hinsert

theorem Adds.namesDistinct (h : Adds r kind name r') (hr : r.NamesDistinct) : r'.NamesDistinct := by
  intro other
  by_cases hother : other = kind
  · rw [hother, h.added]
    exact List.nodup_append.mpr ⟨hr kind, List.nodup_singleton name,
      fun a ha b hb heq ↦ h.fresh (List.mem_singleton.mp hb ▸ heq ▸ ha)⟩
  · rw [h.others other hother]
    exact hr other

theorem namesDistinct_empty : NamesDistinct ∅ := by
  intro kind
  cases kind <;> exact List.nodup_nil

/-- A registry that entities were inserted into one after the other. -/
inductive IsMade : Registry → Prop where
  | empty : IsMade ∅
  | server {r r' : Registry} {server : Server} (h : IsMade r)
    (hinsert : r.insertServer server = .ok r') : IsMade r'
  | service {r r' : Registry} {service : Service} (h : IsMade r)
    (hinsert : r.insertService service = .ok r') : IsMade r'
  | sshKey {r r' : Registry} {key : SshKey} (h : IsMade r)
    (hinsert : r.insertSshKey key = .ok r') : IsMade r'
  | volume {r r' : Registry} {volume : Volume} (h : IsMade r)
    (hinsert : r.insertVolume volume = .ok r') : IsMade r'

theorem IsMade.namesDistinct (h : r.IsMade) : r.NamesDistinct := by
  induction h with
  | empty => exact namesDistinct_empty
  | server _ hinsert ih => exact (adds_of_insertServer hinsert).namesDistinct ih
  | service _ hinsert ih => exact (adds_of_insertService hinsert).namesDistinct ih
  | sshKey _ hinsert ih => exact (adds_of_insertSshKey hinsert).namesDistinct ih
  | volume _ hinsert ih => exact (adds_of_insertVolume hinsert).namesDistinct ih

end Insertion

/-! ### Documents -/

section Documents

variable {r r' : Registry}

section Properties

variable {p : Registry → Prop}
  (hadd : ∀ {r r' : Registry} {kind : Kind} {name : String} {options : Yaml},
    r.add kind name options = .ok r' → p r → p r')

include hadd

theorem holds_of_addEntries {kind : Kind} {entries : Document.Entries}
    (h : r.addEntries kind entries = .ok r') (hr : p r) : p r' := by
  induction entries generalizing r with
  | nil => rwa [← Except.ok.inj h]
  | cons entry rest ih =>
    rw [Registry.addEntries] at h
    split at h
    next next hnext => exact ih h (hadd hnext hr)
    next => cases h

theorem holds_of_addSections {sections : Document.Sections} (h : r.addSections sections = .ok r')
    (hr : p r) : p r' := by
  induction sections generalizing r with
  | nil => rwa [← Except.ok.inj h]
  | cons first rest ih =>
    rw [Registry.addSections] at h
    split at h
    next next hentries => exact ih h (holds_of_addEntries hadd hentries hr)
    next => cases h

end Properties

/-- A registry that comes out of a text. -/
def IsLoaded (r : Registry) : Prop :=
  (∃ text, parse text = .ok r) ∨ ∃ renderer text, (load renderer text).result = .ok r

theorem IsLoaded.exists_sections (h : r.IsLoaded) : ∃ sections, ofSections sections = .ok r := by
  rcases h with ⟨text, hparse⟩ | ⟨renderer, text, hload⟩
  · obtain ⟨document, -, hdocument⟩ := Except.bind_eq_ok_iff.mp hparse
    obtain ⟨sections, -, hsections⟩ := Except.bind_eq_ok_iff.mp hdocument
    exact ⟨sections, hsections⟩
  · rw [load, Activity.result_andThen, Except.bind_eq_ok_iff] at hload
    obtain ⟨document, -, hdocument⟩ := hload
    unfold loadDocument at hdocument
    split at hdocument
    · cases hdocument
    · rw [Activity.result_andThen, Except.bind_eq_ok_iff] at hdocument
      obtain ⟨sections, -, hsections⟩ := hdocument
      exact ⟨sections, hsections⟩

/-- What holds of the empty registry, and is kept by every entity that is accepted, holds of all
registries that come out of a text. -/
theorem IsLoaded.induction {p : Registry → Prop} (hempty : p ∅)
    (hadd : ∀ {r r' : Registry} {kind : Kind} {name : String} {options : Yaml},
      r.add kind name options = .ok r' → p r → p r') (h : r.IsLoaded) : p r := by
  obtain ⟨sections, hsections⟩ := h.exists_sections
  exact holds_of_addSections hadd (Except.mapError_eq_ok_iff.mp hsections) hempty

theorem IsLoaded.namesDistinct (h : r.IsLoaded) : r.NamesDistinct :=
  h.induction namesDistinct_empty fun hadd ↦ (adds_of_add hadd).namesDistinct

/-! ### Names of servers -/

/-- Every server has the name of a host. -/
def HasHostnames (r : Registry) : Prop := ∀ name ∈ r.names .server, Naming.isHostname name = true

theorem isHostname_of_add {name : String} {options : Yaml}
    (h : r.add .server name options = .ok r') : Naming.isHostname name = true := by
  obtain ⟨server, hbuild, -⟩ := Except.bind_eq_ok_iff.mp h
  rw [Server.build, built_eq_ok_iff, Except.bind_eq_ok_iff] at hbuild
  obtain ⟨fields, -, hbuild⟩ := hbuild
  split at hbuild
  next hname => exact hname
  next => cases hbuild

theorem HasHostnames.of_add {kind : Kind} {name : String} {options : Yaml}
    (h : r.add kind name options = .ok r') (hr : r.HasHostnames) : r'.HasHostnames := by
  have hadds := adds_of_add h
  intro other hother
  by_cases hkind : kind = .server
  · subst hkind
    rw [hadds.added] at hother
    rcases List.mem_append.mp hother with hother | hother
    · exact hr other hother
    · rw [List.mem_singleton.mp hother]
      exact isHostname_of_add h
  · rw [hadds.others .server fun heq ↦ hkind heq.symm] at hother
    exact hr other hother

theorem IsLoaded.hasHostnames (h : r.IsLoaded) : r.HasHostnames :=
  h.induction (p := HasHostnames) nofun HasHostnames.of_add

end Documents

end Registry

end ClusterPlan
