import ClusterPlan.Artifacts.Generation
import ClusterPlan.Proofs.Artifacts.Kept
import ClusterPlan.Proofs.Deployment.Resolving
import ClusterPlan.Proofs.Files.Frame
import ClusterPlan.Proofs.Files.Settled

/-!
# The footprint of a generation

All paths at which a generation writes, sets a mode or removes are known from the registry: the
files of items, the halves of keys and their directory, and two files for each server. Whatever
files there are, in whatever order steps end and wherever the generation stops, nothing else changes
but that missing directories are made on the way to these paths.
-/

namespace ClusterPlan.Artifact

open Entity
open FileTree (ChangesOnlyAt)

/-! ### Paths -/

/-- The files of those halves that a key has. -/
def keyFiles (layout : Layout) (key : SshKey) : List String :=
  (key.privateKey.map fun _ ↦ layout.privateKey key.name).toList ++
    (key.publicKey.map fun _ ↦ layout.publicKey key.name).toList

def serverFiles (layout : Layout) (server : String) : List String :=
  [layout.composeFile server, layout.proxyFile server]

/-- The paths at which the files of provisioning are written. -/
def provisioningPaths (layout : Layout) (registry : Registry) : List String :=
  (items registry).map (·.file layout) ++
    layout.sshDirectory :: registry.sshKeys.flatMap (keyFiles layout)

def manifestPaths (layout : Layout) (servers : List String) : List String :=
  servers.flatMap (serverFiles layout)

def outputPaths (layout : Layout) (registry : Registry) : List String :=
  provisioningPaths layout registry ++ manifestPaths layout (registry.servers.map (·.name))

section Footprint

variable {layout : Layout} {registry : Registry}

theorem keeps_of_subset {writing : Writing} {paths more : List String}
    (h : writing.Keeps (ChangesOnlyAt paths)) (hmore : paths ⊆ more) :
    writing.Keeps (ChangesOnlyAt more) :=
  h.mono fun _ _ hchanges ↦ hchanges.mono hmore

theorem keeps_of_mem {writing : Writing} {path : String} {paths : List String}
    (hpath : path ∈ paths) (h : writing.Keeps (ChangesOnlyAt [path])) :
    writing.Keeps (ChangesOnlyAt paths) :=
  keeps_of_subset h fun _ hother ↦ List.mem_singleton.mp hother ▸ hpath

/-! ### Steps -/

theorem keeps_makeStep (step : FileStep) : (makeStep step).Keeps (ChangesOnlyAt [step.path]) :=
  Change.keeps_step (fun _ _ ↦ FileStep.changesOnlyAt_of_perform) _

theorem keeps_write (path text : String) : (write path text).Keeps (ChangesOnlyAt [path]) := by
  have hfile : (makeStep (.writeText path text)).Keeps (ChangesOnlyAt [path]) := keeps_makeStep _
  unfold write
  dsimp only
  split
  next parent hparent =>
    apply Change.Keeps.andThen
    · apply Change.keeps_step
      intro tree after h
      apply FileTree.changesOnlyAt_of_makeDirectory _ h
      exact fun location hlocation ↦ FileTree.mem_passes_of_parent? hparent hlocation
    · exact hfile
  next => exact hfile

/-! ### Provisioning -/

theorem keeps_writeItem {item : Item} (h : item ∈ items registry) :
    (item.write layout registry).Keeps
      (ChangesOnlyAt ((items registry).map (·.file layout))) := by
  unfold Item.write
  split
  · exact keeps_of_mem (List.mem_map_of_mem h) (keeps_write _ _)
  · exact Change.keeps_fail _

theorem keeps_join_writeItem {written : List Item} (h : written ⊆ items registry) :
    (Change.join (written.map (·.write layout registry))).Keeps
      (ChangesOnlyAt ((items registry).map (·.file layout))) := by
  apply Change.keeps_join
  rw [List.forall_mem_map]
  exact fun item hitem ↦ keeps_writeItem (h hitem)

theorem keeps_writeResources :
    (writeResources layout registry).Keeps
      (ChangesOnlyAt ((items registry).map (·.file layout))) := by
  have hkeys : keyItems registry ⊆ items registry := by
    simp [items, entityItems]
  have hservers : registry.servers.map .server ⊆ items registry := by
    intro item hitem
    simp [items, entityItems, hitem]
  have hvolumes : registry.volumes.map .volume ⊆ items registry := by
    intro item hitem
    simp [items, entityItems, hitem]
  have hattachments : attachmentItems registry ⊆ items registry := by
    simp [items]
  have hprovider : Item.provider ∈ items registry := by
    simp [items, entityItems]
  rw [writeResources, writeKeyResources_eq, writeServers_eq, writeVolumes_eq, writeAttachments_eq]
  apply Change.Keeps.andThen
  · apply Change.keeps_join
    simp only [List.forall_mem_cons]
    exact ⟨keeps_writeItem hprovider, keeps_join_writeItem hkeys, keeps_join_writeItem hservers,
      keeps_join_writeItem hvolumes, List.forall_mem_nil _⟩
  · exact keeps_join_writeItem hattachments

theorem keeps_writeHalf (path : String) (mode : Nat) (half : Option String) :
    (writeHalf path mode half).Keeps (ChangesOnlyAt (half.map fun _ ↦ path).toList) := by
  cases half with
  | none => exact Change.keeps_done
  | some material => exact (keeps_write path _).andThen (keeps_makeStep _)

theorem keeps_writeKey (key : SshKey) :
    (writeKey layout key).Keeps (ChangesOnlyAt (keyFiles layout key)) := by
  apply Change.Keeps.andThen
  · exact keeps_of_subset (keeps_writeHalf _ _ _) (List.subset_append_left _ _)
  · exact keeps_of_subset (keeps_writeHalf _ _ _) (List.subset_append_right _ _)

theorem keeps_writeKeys :
    (writeKeys layout registry).Keeps
      (ChangesOnlyAt (layout.sshDirectory :: registry.sshKeys.flatMap (keyFiles layout))) := by
  have hdirectory : layout.sshDirectory ∈
      layout.sshDirectory :: registry.sshKeys.flatMap (keyFiles layout) := List.mem_cons_self
  apply Change.Keeps.andThen
  · exact keeps_of_mem hdirectory (keeps_makeStep _)
  · apply Change.Keeps.andThen
    · exact keeps_of_mem hdirectory (keeps_makeStep _)
    · apply Change.keeps_join
      rw [List.forall_mem_map]
      intro key hkey
      apply keeps_of_subset (keeps_writeKey key)
      exact fun path hpath ↦ List.mem_cons_of_mem _ (List.mem_flatMap_of_mem hkey hpath)

theorem keeps_generateProvisioning :
    (generateProvisioning layout registry).Keeps
      (ChangesOnlyAt (provisioningPaths layout registry)) := by
  have hresources : (writeProvisioning layout registry).Keeps
      (ChangesOnlyAt ((items registry).map (·.file layout))) := by
    unfold writeProvisioning
    split
    · exact Change.keeps_fail _
    · exact Change.keeps_fail _
    · exact keeps_writeResources
  apply Change.keeps_join
  simp only [List.forall_mem_cons]
  exact ⟨keeps_of_subset hresources (List.subset_append_left _ _),
    keeps_of_subset keeps_writeKeys (List.subset_append_right _ _), List.forall_mem_nil _⟩

/-! ### Manifests -/

theorem keeps_writeProxy (server : String) (plan : Proxy.Plan) :
    (writeProxy layout server plan).Keeps (ChangesOnlyAt [layout.proxyFile server]) := by
  unfold writeProxy
  dsimp only
  split
  · exact keeps_makeStep _
  · split
    · exact keeps_write _ _
    · exact Change.keeps_fail _

theorem keeps_writeManifest (d : Deployment) (plan : Proxy.Plan) :
    (writeManifest layout d plan).Keeps (ChangesOnlyAt (serverFiles layout d.server)) := by
  apply Change.Keeps.andThen
  · exact keeps_of_mem List.mem_cons_self (keeps_write _ _)
  · exact keeps_of_subset (keeps_writeProxy d.server plan) (List.subset_cons_self _ _)

theorem keeps_writeManifests (options : Proxy.PlanOptions) (deployments : List Deployment) :
    (writeManifests layout options deployments).Keeps
      (ChangesOnlyAt (manifestPaths layout (deployments.map (·.server)))) := by
  unfold writeManifests
  split
  · exact Change.keeps_fail _
  next plans _ =>
    apply Change.keeps_join
    rw [List.forall_mem_map]
    rintro ⟨d, plan⟩ hd
    apply keeps_of_subset (keeps_writeManifest d plan)
    exact fun path hpath ↦
      List.mem_flatMap_of_mem (List.mem_map_of_mem (List.of_mem_zip hd).1) hpath

variable {κ : Type} {planner : Planner κ} {options : Proxy.PlanOptions}

theorem changesOnlyAt_generateManifests (schedule : Change.Schedule) (tree : FileTree) :
    ChangesOnlyAt (manifestPaths layout (planner.registry.servers.map (·.name))) tree
      (generateManifests layout options planner schedule tree).tree := by
  unfold generateManifests
  dsimp only
  split
  next => exact FileTree.ChangesOnlyAt.refl tree
  next deployments hdeployments =>
    have hservers : deployments.map (·.server) = planner.registry.servers.map (·.name) :=
      (planner.seeing tree).map_server_of_deployAll hdeployments
    rw [← hservers]
    exact (keeps_writeManifests options deployments).run schedule tree

/-- A generation changes nothing but at the paths of its output. -/
theorem changesOnlyAt_generateAll (schedules : Schedules) (tree : FileTree) :
    ChangesOnlyAt (outputPaths layout planner.registry) tree
      (generateAll layout options planner schedules tree).tree := by
  have hprovisioning : ChangesOnlyAt (outputPaths layout planner.registry) tree
      ((generateProvisioning layout planner.registry).run schedules.provisioning tree).1 :=
    (keeps_generateProvisioning.run schedules.provisioning tree).mono
      (List.subset_append_left _ _)
  unfold generateAll
  dsimp only
  split
  next => exact hprovisioning
  next =>
    apply hprovisioning.trans
    exact (changesOnlyAt_generateManifests schedules.manifests _).mono
      (List.subset_append_right _ _)

end Footprint

end ClusterPlan.Artifact
