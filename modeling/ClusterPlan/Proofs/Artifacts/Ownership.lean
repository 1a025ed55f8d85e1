import ClusterPlan.Proofs.Artifacts.Kept
import ClusterPlan.Proofs.Registry.Names
import ClusterPlan.Proofs.Sequence

/-!
# Volumes and their servers

A volume belongs to the server that lists it, however often it does. Ownership is looked up server
by server for each volume, attachments are made volume by volume for each server, and names that
lead nowhere are left out there. If every volume has exactly one server, both come to the same: the
server that a volume is attached to is the one whose location it is given, and no other attachment
is made. The check of ownership is exact, and it reports all volumes without a server and all that
have several, with these servers.
-/

namespace ClusterPlan.Registry

open Entity Naming Terraform

/-- Several servers list a volume. -/
def Several (r : Registry) (volume : String) : Prop :=
  ∃ a ∈ r.servers, ∃ b ∈ r.servers, a ≠ b ∧ volume ∈ a.volumes ∧ volume ∈ b.volumes

/-- The names of all servers that list a volume, in the order of the document. -/
structure AreOwners (r : Registry) (volume : String) (owners : List String) : Prop where
  ordered : owners.Sublist (r.names .server)
  mem_iff : ∀ server ∈ r.servers, server.name ∈ owners ↔ volume ∈ server.volumes

/-- All that is wrong with the volumes of a registry, in the order of the document. -/
structure Misowned.IsOf (e : Misowned) (r : Registry) : Prop where
  unclaimed : e.unclaimed.Sublist (r.names .volume)
  mem_unclaimed_iff : ∀ volume ∈ r.volumes,
    volume.name ∈ e.unclaimed ↔ ∀ server ∈ r.servers, volume.name ∉ server.volumes
  shared : (e.shared.map (·.1)).Sublist (r.names .volume)
  mem_shared_iff : ∀ volume ∈ r.volumes,
    volume.name ∈ e.shared.map (·.1) ↔ r.Several volume.name
  owners : ∀ entry ∈ e.shared, r.AreOwners entry.1 entry.2

/-- Ownership as it is checked, and attachments as they are made after that. -/
structure AttachesOnce (r : Registry) : Prop where
  checkOwnership_iff : r.checkOwnership = .ok () ↔
    ∀ volume ∈ r.volumes, ∃! server, server ∈ r.servers ∧ volume.name ∈ server.volumes
  error : ∀ e, r.checkOwnership = .error e → e.IsOf r
  attached : r.checkOwnership = .ok () →
    ∀ volume ∈ r.volumes, ∃! server, (server, volume) ∈ attachmentPairs r
  mem_volumes : ∀ pair ∈ attachmentPairs r, pair.2 ∈ r.volumes
  written : ∀ layout path text,
    .writeText path text ∈ (Artifact.writeAttachments layout r).steps ↔
      ∃ pair ∈ attachmentPairs r, ∃ json, attachmentResource r pair.1 pair.2 = .ok json ∧
        path = (Artifact.Item.attachment pair.1 pair.2).file layout ∧
        text = Artifact.resourceText json
  located : r.checkOwnership = .ok () → ∀ pair ∈ attachmentPairs r,
    r.serversClaiming pair.2.name = [pair.1] ∧
      (volumeResource r pair.2).at?
          ["resource", volumeType, identifier pair.2.name, "location"] =
        some (.string (Reference.text ⟨serverType, identifier pair.1.name, "location"⟩))

section Ownership

variable {r : Registry}

theorem mem_serversClaiming {server : Server} {volume : String} :
    server ∈ r.serversClaiming volume ↔ server ∈ r.servers ∧ volume ∈ server.volumes := by
  simp [serversClaiming, Server.claims]

theorem NamesDistinct.nodup_serversClaiming (h : r.NamesDistinct) (volume : String) :
    (r.serversClaiming volume).Nodup :=
  (List.Nodup.of_map _ (h .server)).filter _

theorem one_lt_length_iff_of_nodup {α : Type} {l : List α} (h : l.Nodup) :
    1 < l.length ↔ ∃ a ∈ l, ∃ b ∈ l, a ≠ b := by
  constructor
  · intro hlength
    cases l with
    | nil => simp at hlength
    | cons a rest =>
      cases rest with
      | nil => simp at hlength
      | cons b rest =>
        have hne : a ≠ b := fun heq ↦ (List.nodup_cons.mp h).1 (heq ▸ List.mem_cons_self)
        exact ⟨a, by simp, b, by simp, hne⟩
  · rintro ⟨a, ha, b, hb, hne⟩
    cases l with
    | nil => cases ha
    | cons c rest =>
      cases rest with
      | nil => exact absurd ((List.mem_singleton.mp ha).trans (List.mem_singleton.mp hb).symm) hne
      | cons d rest => simp

theorem NamesDistinct.one_lt_length_owners_iff (h : r.NamesDistinct) (volume : Volume) :
    1 < (r.owners volume).length ↔ r.Several volume.name := by
  rw [owners, List.length_map, one_lt_length_iff_of_nodup (h.nodup_serversClaiming volume.name)]
  simp only [mem_serversClaiming, Several]
  constructor
  · rintro ⟨a, ⟨ha, hlists⟩, b, ⟨hb, hlists'⟩, hne⟩
    exact ⟨a, ha, b, hb, hne, hlists, hlists'⟩
  · rintro ⟨a, ha, b, hb, hne, hlists, hlists'⟩
    exact ⟨a, ⟨ha, hlists⟩, b, ⟨hb, hlists'⟩, hne⟩

theorem owners_eq_nil_iff (volume : Volume) :
    r.owners volume = [] ↔ ∀ server ∈ r.servers, volume.name ∉ server.volumes := by
  simp [owners, serversClaiming, Server.claims]

theorem NamesDistinct.areOwners_owners (h : r.NamesDistinct) (volume : Volume) :
    r.AreOwners volume.name (r.owners volume) := by
  constructor
  · exact List.filter_sublist.map _
  · intro server hserver
    rw [owners, List.mem_map]
    constructor
    · rintro ⟨other, hother, hname⟩
      obtain ⟨hother, hlists⟩ := mem_serversClaiming.mp hother
      rwa [List.inj_on_of_nodup_map (h .server) hserver hother hname.symm]
    · exact fun hlists ↦ ⟨server, mem_serversClaiming.mpr ⟨hserver, hlists⟩, rfl⟩

/-! ### The check -/

theorem checkOwnership_eq_ok_iff_owners :
    r.checkOwnership = .ok () ↔
      ∀ volume ∈ r.volumes, r.owners volume ≠ [] ∧ ¬1 < (r.owners volume).length := by
  have hempty : r.checkOwnership = .ok () ↔
      r.misowned.unclaimed = [] ∧ r.misowned.shared = [] := by
    unfold checkOwnership
    simp
  rw [hempty, misowned, List.map_eq_nil_iff, List.map_eq_nil_iff, List.filter_eq_nil_iff,
    List.filter_eq_nil_iff]
  simp only [List.isEmpty_iff, decide_eq_true_eq, ← forall_and]

/-- One server and no other lists a volume: some server does, and not several. -/
theorem existsUnique_iff (h : r.NamesDistinct) (volume : Volume) :
    (∃! server, server ∈ r.servers ∧ volume.name ∈ server.volumes) ↔
      r.owners volume ≠ [] ∧ ¬1 < (r.owners volume).length := by
  rw [h.one_lt_length_owners_iff, ne_eq, owners_eq_nil_iff]
  constructor
  · rintro ⟨server, ⟨hserver, hlists⟩, hunique⟩
    constructor
    · exact fun hnone ↦ hnone server hserver hlists
    · rintro ⟨a, ha, b, hb, hne, hlistsa, hlistsb⟩
      exact hne ((hunique a ⟨ha, hlistsa⟩).trans (hunique b ⟨hb, hlistsb⟩).symm)
  · rintro ⟨hsome, hsingle⟩
    push Not at hsome
    obtain ⟨server, hserver, hlists⟩ := hsome
    refine ⟨server, ⟨hserver, hlists⟩, ?_⟩
    rintro other ⟨hother, hlists'⟩
    by_contra hne
    exact hsingle ⟨other, hother, server, hserver, hne, hlists', hlists⟩

theorem NamesDistinct.checkOwnership_eq_ok_iff (h : r.NamesDistinct) :
    r.checkOwnership = .ok () ↔
      ∀ volume ∈ r.volumes, ∃! server, server ∈ r.servers ∧ volume.name ∈ server.volumes := by
  rw [checkOwnership_eq_ok_iff_owners]
  simp only [existsUnique_iff h]

theorem NamesDistinct.name_mem_map_filter_iff (h : r.NamesDistinct) (p : Volume → Bool)
    {volume : Volume} (hvolume : volume ∈ r.volumes) :
    volume.name ∈ (r.volumes.filter p).map (·.name) ↔ p volume = true := by
  rw [List.mem_map]
  constructor
  · rintro ⟨other, hother, hname⟩
    obtain ⟨hother, hp⟩ := List.mem_filter.mp hother
    rwa [List.inj_on_of_nodup_map (h .volume) hvolume hother hname.symm]
  · exact fun hp ↦ ⟨volume, List.mem_filter.mpr ⟨hvolume, hp⟩, rfl⟩

theorem NamesDistinct.isOf_misowned (h : r.NamesDistinct) : r.misowned.IsOf r := by
  have hshared : r.misowned.shared.map (·.1) =
      (r.volumes.filter fun v ↦ 1 < (r.owners v).length).map (·.name) := by
    rw [misowned, List.map_map]
    rfl
  constructor
  · exact List.filter_sublist.map _
  · intro volume hvolume
    rw [misowned, h.name_mem_map_filter_iff _ hvolume, List.isEmpty_iff, owners_eq_nil_iff]
  · rw [hshared]
    exact List.filter_sublist.map _
  · intro volume hvolume
    rw [hshared, h.name_mem_map_filter_iff _ hvolume, decide_eq_true_eq,
      h.one_lt_length_owners_iff]
  · intro entry hentry
    obtain ⟨volume, -, rfl⟩ := List.mem_map.mp hentry
    exact h.areOwners_owners volume

theorem eq_misowned_of_checkOwnership {e : Misowned} (h : r.checkOwnership = .error e) :
    e = r.misowned := by
  unfold checkOwnership at h
  dsimp only at h
  split at h
  · cases h
  · exact (Except.error.inj h).symm

/-! ### Attachments -/

theorem NamesDistinct.volume?_eq_some_iff (h : r.NamesDistinct) {name : String}
    {volume : Volume} :
    r.volume? name = some volume ↔ volume ∈ r.volumes ∧ volume.name = name :=
  find?_eq_some_iff_of_nodup (h .volume)

theorem NamesDistinct.mem_attachmentPairs_iff (h : r.NamesDistinct) {server : Server}
    {volume : Volume} :
    (server, volume) ∈ attachmentPairs r ↔
      volume ∈ r.volumes ∧ server ∈ r.servers ∧ volume.name ∈ server.volumes := by
  rw [Artifact.mem_attachmentPairs, volumesOf, List.mem_filterMap]
  simp only [h.volume?_eq_some_iff]
  constructor
  · rintro ⟨hserver, name, hname, hvolume, rfl⟩
    exact ⟨hvolume, hserver, hname⟩
  · rintro ⟨hvolume, hserver, hname⟩
    exact ⟨hserver, volume.name, hname, hvolume, rfl⟩

/-- The only server that lists a volume is found when its servers are looked up. -/
theorem serversClaiming_eq_singleton {server : Server} {volume : Volume}
    (hserver : server ∈ r.serversClaiming volume.name)
    (h : ¬1 < (r.owners volume).length) : r.serversClaiming volume.name = [server] := by
  rw [owners, List.length_map] at h
  generalize r.serversClaiming volume.name = claiming at h hserver ⊢
  cases claiming with
  | nil => cases hserver
  | cons first rest =>
    cases rest with
    | nil => rw [List.mem_singleton.mp hserver]
    | cons second rest => simp at h

theorem location_of_serversClaiming {server : Server} {volume : Volume}
    (h : r.serversClaiming volume.name = [server]) :
    (volumeResource r volume).at? ["resource", volumeType, identifier volume.name, "location"] =
      some (.string (Reference.text ⟨serverType, identifier server.name, "location"⟩)) := by
  have hlocation : volumeLocation r volume =
      some ⟨serverType, identifier server.name, "location"⟩ := by
    rw [volumeLocation, h]
    rfl
  rw [volumeResource, at?_resources_singleton, hlocation]
  rfl

end Ownership

theorem attachesOnce_of_isMade {r : Registry} (h : r.IsMade) : r.AttachesOnce := by
  have hnames := h.namesDistinct
  constructor
  case checkOwnership_iff => exact hnames.checkOwnership_eq_ok_iff
  case error =>
    intro e he
    rw [eq_misowned_of_checkOwnership he]
    exact hnames.isOf_misowned
  case attached =>
    intro hok volume hvolume
    simp only [hnames.mem_attachmentPairs_iff, hvolume, true_and]
    exact hnames.checkOwnership_eq_ok_iff.mp hok volume hvolume
  case mem_volumes => exact fun pair hpair ↦ (hnames.mem_attachmentPairs_iff.mp hpair).1
  case written => exact fun _ _ _ ↦ Artifact.writeText_mem_steps_writeAttachments
  case located =>
    intro hok pair hpair
    obtain ⟨hvolume, hserver⟩ := hnames.mem_attachmentPairs_iff.mp hpair
    have hsingle := serversClaiming_eq_singleton (mem_serversClaiming.mpr hserver)
      (checkOwnership_eq_ok_iff_owners.mp hok pair.2 hvolume).2
    exact ⟨hsingle, location_of_serversClaiming hsingle⟩

/-! ### A volume that is listed twice -/

def opsKey : SshKey := ⟨"ops", "root", some "secret", none⟩

def apiService : Service := ⟨"api", ["org/api:v1"], [], [], [], []⟩

def logsVolume : Volume := ⟨"logs", 10, "/mnt/logs"⟩

def dataVolume : Volume := ⟨"data", 20, "/mnt/data"⟩

/-- The server lists its volume twice. -/
def dataServer : Server := ⟨"web-1", "cx22", none, ["ops"], ["api"], ["data", "data"], [], []⟩

def logsServer : Server := ⟨"web-2", "cx22", none, ["ops"], ["api"], ["logs"], [], []⟩

def repeatedVolume : Registry :=
  ⟨[dataServer, logsServer], [apiService], [opsKey], [logsVolume, dataVolume]⟩

theorem attachesOnce_repeatedVolume :
    repeatedVolume.IsMade ∧ repeatedVolume.checkReferences = .ok () ∧
      repeatedVolume.checkOwnership = .ok () ∧
      (attachmentPairs repeatedVolume).map (fun pair ↦ (pair.1.name, pair.2.name)) =
        [("web-1", "data"), ("web-1", "data"), ("web-2", "logs")] ∧
      repeatedVolume.AttachesOnce := by
  have hkey : insertSshKey ∅ opsKey = .ok ⟨[], [], [opsKey], []⟩ := rfl
  have hservice : insertService ⟨[], [], [opsKey], []⟩ apiService =
      .ok ⟨[], [apiService], [opsKey], []⟩ := rfl
  have hlogs : insertVolume ⟨[], [apiService], [opsKey], []⟩ logsVolume =
      .ok ⟨[], [apiService], [opsKey], [logsVolume]⟩ := rfl
  have hdata : insertVolume ⟨[], [apiService], [opsKey], [logsVolume]⟩ dataVolume =
      .ok ⟨[], [apiService], [opsKey], [logsVolume, dataVolume]⟩ := rfl
  have hfirst : insertServer ⟨[], [apiService], [opsKey], [logsVolume, dataVolume]⟩ dataServer =
      .ok ⟨[dataServer], [apiService], [opsKey], [logsVolume, dataVolume]⟩ := rfl
  have hsecond : insertServer ⟨[dataServer], [apiService], [opsKey], [logsVolume, dataVolume]⟩
      logsServer = .ok repeatedVolume := rfl
  have hmade : repeatedVolume.IsMade :=
    ((((IsMade.empty.sshKey hkey).service hservice).volume hlogs).volume hdata).server hfirst
      |>.server hsecond
  exact ⟨hmade, rfl, rfl, by decide +kernel, attachesOnce_of_isMade hmade⟩

end ClusterPlan.Registry
