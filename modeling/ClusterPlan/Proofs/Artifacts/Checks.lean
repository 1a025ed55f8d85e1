import ClusterPlan.Artifacts.Generation
import ClusterPlan.Proofs.Artifacts.Kept
import ClusterPlan.Proofs.Deployment.Resolving
import ClusterPlan.Proofs.Files.Outcomes

/-!
# Checks before writing

An artifact error is found in the registry, in the deployments, or only when something is to be
written. What is found in the registry is found before the first step on the files, also of the keys
that are written alongside, and what is found in the deployments of any server is found before a
manifest of any other is written. So a run that ends in such an error leaves the files as they were.
-/

namespace ClusterPlan

namespace ArtifactError

/-- References to nothing, and volumes with no server or with several. -/
inductive IsOfRegistry : ArtifactError → Prop where
  | unknownReference (e : UnknownReference) : IsOfRegistry (.unknownReference e)
  | misowned (e : Registry.Misowned) : IsOfRegistry (.misowned e)

/-- What keeps a single file from being made. -/
inductive IsOfWriting : ArtifactError → Prop where
  | unwritable (path : String) (fault : FileFault) : IsOfWriting (.unwritable path fault)
  | noConnectableKey (server : String) : IsOfWriting (.noConnectableKey server)
  | mountScript (volume : String) (e : Template.Error) :
    IsOfWriting (.template (.mountScript volume) e)
  | proxyConfig (server : String) (e : Template.Error) :
    IsOfWriting (.template (.proxyConfig server) e)

variable {e : ArtifactError}

theorem IsOfWriting.not_isOfRegistry (h : e.IsOfWriting) : ¬e.IsOfRegistry := by
  cases h <;> exact nofun

theorem IsOfWriting.not_isOfDeployments (h : e.IsOfWriting) : ¬e.IsOfDeployments := by
  cases h <;> exact nofun

theorem IsOfDeployments.not_isOfRegistry (h : e.IsOfDeployments) : ¬e.IsOfRegistry := by
  cases h <;> exact nofun

end ArtifactError

namespace Artifact

open Entity
open ArtifactError (IsOfDeployments IsOfRegistry IsOfWriting)

section Failures

variable {layout : Layout} {registry : Registry}

/-! ### What writing fails by -/

theorem failsBy_makeStep (step : FileStep) : (makeStep step).FailsBy IsOfWriting :=
  Change.failsBy_step (IsOfWriting.unwritable step.path) step

theorem failsBy_write (path text : String) : (write path text).FailsBy IsOfWriting := by
  unfold write
  dsimp only
  split
  · exact (failsBy_makeStep _).andThen (failsBy_makeStep _)
  · exact failsBy_makeStep _

theorem isOfWriting_of_resource {item : Item} {e : ArtifactError}
    (h : item.resource registry = .error e) : e.IsOfWriting := by
  cases item with
  | provider | key k | server s | volume v => cases h
  | attachment s v =>
    change Terraform.attachmentResource registry s v = .error e at h
    unfold Terraform.attachmentResource at h
    split at h
    · rw [← Except.error.inj h]
      exact .noConnectableKey s.name
    · rw [Except.map_eq_error_iff, Terraform.mountScript, Except.mapError_eq_error_iff] at h
      obtain ⟨e', -, rfl⟩ := h
      exact .mountScript v.name e'

theorem failsBy_writeItem (registry : Registry) (item : Item) :
    (item.write layout registry).FailsBy IsOfWriting := by
  unfold Item.write
  split
  · exact failsBy_write _ _
  next e he => exact Change.failsBy_fail (isOfWriting_of_resource he)

theorem failsBy_join_writeItem (written : List Item) :
    (Change.join (written.map (·.write layout registry))).FailsBy IsOfWriting := by
  apply Change.failsBy_join
  rw [List.forall_mem_map]
  exact fun item _ ↦ failsBy_writeItem registry item

theorem failsBy_writeResources : (writeResources layout registry).FailsBy IsOfWriting := by
  rw [writeResources, writeKeyResources_eq, writeServers_eq, writeVolumes_eq, writeAttachments_eq]
  apply Change.FailsBy.andThen
  · apply Change.failsBy_join
    simp only [List.forall_mem_cons]
    exact ⟨failsBy_writeItem registry .provider, failsBy_join_writeItem _,
      failsBy_join_writeItem _, failsBy_join_writeItem _, List.forall_mem_nil _⟩
  · exact failsBy_join_writeItem _

theorem failsBy_writeHalf (path : String) (mode : Nat) (half : Option String) :
    (writeHalf path mode half).FailsBy IsOfWriting := by
  cases half with
  | none => exact Change.failsBy_done
  | some material => exact (failsBy_write _ _).andThen (failsBy_makeStep _)

theorem failsBy_writeKeys : (writeKeys layout registry).FailsBy IsOfWriting := by
  apply (failsBy_makeStep _).andThen
  apply (failsBy_makeStep _).andThen
  apply Change.failsBy_join
  rw [List.forall_mem_map]
  exact fun key _ ↦ (failsBy_writeHalf _ _ _).andThen (failsBy_writeHalf _ _ _)

theorem failsBy_writeManifest (d : Deployment) (plan : Proxy.Plan) :
    (writeManifest layout d plan).FailsBy IsOfWriting := by
  apply (failsBy_write _ _).andThen
  unfold writeProxy
  dsimp only
  split
  · exact failsBy_makeStep _
  · split
    · exact failsBy_write _ _
    next e _ => exact Change.failsBy_fail (.proxyConfig d.server e)

/-! ### What is checked first -/

theorem isOfDeployments_of_planProxy {options : Proxy.PlanOptions}
    {placements : List Proxy.Placement} {d : Deployment} {e : ArtifactError}
    (h : planProxy options placements d = .error e) : e.IsOfDeployments := by
  unfold planProxy at h
  split at h
  next conflict _ =>
    rw [← Except.error.inj h]
    exact .routeConflict conflict
  next =>
    rw [Except.map_eq_error_iff] at h
    unfold Deployment.checkProxyPorts at h
    split at h
    · rw [← Except.error.inj h]
      exact .portConflict _ _ _
    · cases h

theorem isOfDeployments_of_planProxies {options : Proxy.PlanOptions}
    {deployments : List Deployment} {e : ArtifactError}
    (h : planProxies options deployments = .error e) : e.IsOfDeployments := by
  unfold planProxies at h
  generalize deployments.flatMap (·.placements) = placements at h
  induction deployments with
  | nil => cases h
  | cons d rest ih =>
    rw [planAll] at h
    split at h
    next e' he' =>
      rw [← Except.error.inj h]
      exact isOfDeployments_of_planProxy he'
    next => exact ih (Except.map_eq_error_iff.mp h)

/-- Either the registry is in order and its resources are written, or nothing is even begun. -/
theorem writeProvisioning_cases (layout : Layout) (registry : Registry) :
    (∃ e, e.IsOfRegistry ∧ writeProvisioning layout registry = Change.fail e) ∨
      writeProvisioning layout registry = writeResources layout registry := by
  unfold writeProvisioning
  split
  next => exact .inl ⟨_, .unknownReference _, rfl⟩
  next => exact .inl ⟨_, .misowned _, rfl⟩
  next => exact .inr rfl

/-- Provisioning that fails by the registry has not begun, nor have the keys. -/
theorem generateProvisioning_unchanged {schedule : Change.Schedule} {tree : FileTree}
    {e : ArtifactError}
    (h : ((generateProvisioning layout registry).run schedule tree).2 = .error e)
    (he : e.IsOfRegistry) : ((generateProvisioning layout registry).run schedule tree).1 = tree := by
  unfold generateProvisioning at h ⊢
  rcases writeProvisioning_cases layout registry with ⟨e', -, hfail⟩ | hwrite
  · rw [hfail, Change.run_join_fail_cons]
  · have hfails : (Change.join
        [writeProvisioning layout registry, writeKeys layout registry]).FailsBy IsOfWriting := by
      apply Change.failsBy_join
      simp only [List.forall_mem_cons]
      exact ⟨hwrite ▸ failsBy_writeResources, failsBy_writeKeys, List.forall_mem_nil _⟩
    exact absurd he (hfails.run h).not_isOfRegistry

/-- What has been written was in order. -/
theorem checkReferences_of_generateProvisioning {tree after : FileTree}
    (h : (generateProvisioning layout registry).Makes tree after) :
    registry.checkReferences = .ok () := by
  have hsound := Change.sound_join_iff.mp h.sound _ List.mem_cons_self
  exact (sound_writeProvisioning_iff.mp hsound).1

end Failures

/-! ### Runs that fail by a check -/

section Runs

variable {κ : Type} {layout : Layout} {options : Proxy.PlanOptions} {planner : Planner κ}
  {schedule : Change.Schedule} {tree : FileTree} {e : ArtifactError}

theorem generateManifests_of_deployAll_eq_error
    (h : (planner.seeing tree).deployAll.result = .error e) :
    generateManifests layout options planner schedule tree =
      ⟨tree, (planner.seeing tree).deployAll.log, .error e⟩ := by
  unfold generateManifests
  dsimp only
  rw [h]

theorem generateManifests_of_deployAll_eq_ok {deployments : List Deployment}
    (h : (planner.seeing tree).deployAll.result = .ok deployments) :
    generateManifests layout options planner schedule tree =
      ⟨((writeManifests layout options deployments).run schedule tree).1,
        (planner.seeing tree).deployAll.log,
        ((writeManifests layout options deployments).run schedule tree).2.map
          fun () ↦ deployments⟩ := by
  unfold generateManifests
  dsimp only
  rw [h]

theorem writeManifests_of_planProxies {deployments : List Deployment}
    (h : planProxies options deployments = .error e) :
    writeManifests layout options deployments = Change.fail e := by
  unfold writeManifests
  rw [h]

/-- Once the proxies are planned, only writing can fail. -/
theorem failsBy_writeManifests {deployments : List Deployment} {plans : List Proxy.Plan}
    (h : planProxies options deployments = .ok plans) :
    (writeManifests layout options deployments).FailsBy IsOfWriting := by
  unfold writeManifests
  rw [h]
  apply Change.failsBy_join
  rw [List.forall_mem_map]
  exact fun pair _ ↦ failsBy_writeManifest pair.1 pair.2

theorem unchanged_of_deployAll (schedule : Change.Schedule)
    (h : (planner.seeing tree).deployAll.result = .error e) :
    (generateManifests layout options planner schedule tree).result = .error e ∧
      (generateManifests layout options planner schedule tree).tree = tree := by
  rw [generateManifests_of_deployAll_eq_error h]
  exact ⟨rfl, rfl⟩

theorem unchanged_of_planProxies (schedule : Change.Schedule) {deployments : List Deployment}
    (hdeployments : (planner.seeing tree).deployAll.result = .ok deployments)
    (h : planProxies options deployments = .error e) :
    (generateManifests layout options planner schedule tree).result = .error e ∧
      (generateManifests layout options planner schedule tree).tree = tree := by
  rw [generateManifests_of_deployAll_eq_ok hdeployments, writeManifests_of_planProxies h,
    Change.run_fail]
  exact ⟨rfl, rfl⟩

/-- A run over the manifests fails by resolving, by planning, or by writing. -/
theorem generateManifests_cases
    (h : (generateManifests layout options planner schedule tree).result = .error e) :
    (planner.seeing tree).deployAll.result = .error e ∨
      (∃ deployments, (planner.seeing tree).deployAll.result = .ok deployments ∧
        planProxies options deployments = .error e) ∨ e.IsOfWriting := by
  cases hresolved : (planner.seeing tree).deployAll.result with
  | error e' =>
    rw [generateManifests_of_deployAll_eq_error hresolved] at h
    exact .inl h
  | ok deployments =>
    rw [generateManifests_of_deployAll_eq_ok hresolved] at h
    have hwritten := Except.map_eq_error_iff.mp h
    cases hplans : planProxies options deployments with
    | error e' =>
      rw [writeManifests_of_planProxies hplans, Change.run_fail] at hwritten
      obtain rfl := Except.error.inj hwritten
      exact .inr (.inl ⟨deployments, rfl, hplans⟩)
    | ok plans => exact .inr (.inr ((failsBy_writeManifests hplans).run hwritten))

end Runs

/-- Whatever is found in the registry or in the deployments is found before a file is touched. -/
structure ChecksFirst {κ : Type} (layout : Layout) (options : Proxy.PlanOptions)
    (planner : Planner κ) (schedules : Schedules) (tree : FileTree) : Prop where
  registry : ∀ e, (generateAll layout options planner schedules tree).result = .error e →
    e.IsOfRegistry → (generateAll layout options planner schedules tree).tree = tree
  resolving : ∀ e, (planner.seeing tree).deployAll.result = .error e →
    (generateManifests layout options planner schedules.manifests tree).result = .error e ∧
      (generateManifests layout options planner schedules.manifests tree).tree = tree
  planning : ∀ deployments e, (planner.seeing tree).deployAll.result = .ok deployments →
    planProxies options deployments = .error e →
    (generateManifests layout options planner schedules.manifests tree).result = .error e ∧
      (generateManifests layout options planner schedules.manifests tree).tree = tree
  deployments : ∀ e,
    (generateManifests layout options planner schedules.manifests tree).result = .error e →
    e.IsOfDeployments →
    (generateManifests layout options planner schedules.manifests tree).tree = tree

theorem checksFirst {κ : Type} (layout : Layout) (options : Proxy.PlanOptions)
    (planner : Planner κ) (schedules : Schedules) (tree : FileTree) :
    ChecksFirst layout options planner schedules tree where
  registry := by
    intro e h he
    unfold generateAll at h ⊢
    dsimp only at h ⊢
    cases hprovisioned :
        ((generateProvisioning layout planner.registry).run schedules.provisioning tree).2 with
    | error e' =>
      rw [hprovisioned] at h
      obtain rfl := Except.error.inj h
      exact generateProvisioning_unchanged hprovisioned he
    | ok u =>
      rw [hprovisioned] at h
      have hreferences :=
        checkReferences_of_generateProvisioning ⟨_, Prod.ext rfl hprovisioned⟩
      rcases generateManifests_cases h with h | ⟨deployments, -, h⟩ | h
      · rcases Planner.failsBy_deployAll _ e h with ⟨reference, hreference, -⟩ | h
        · cases hreferences.symm.trans hreference
        · exact absurd he h.not_isOfRegistry
      · exact absurd he (isOfDeployments_of_planProxies h).not_isOfRegistry
      · exact absurd he h.not_isOfRegistry
  resolving := fun _ ↦ unchanged_of_deployAll _
  planning := fun _ _ ↦ unchanged_of_planProxies _
  deployments := by
    intro e h he
    rcases generateManifests_cases h with h | ⟨deployments, hdeployments, h⟩ | h
    · exact (unchanged_of_deployAll _ h).2
    · exact (unchanged_of_planProxies _ hdeployments h).2
    · exact absurd he h.not_isOfDeployments

/-! ### A cluster with faults -/

/-- The second server binds one port of its own twice. -/
def crowdedRegistry : Registry where
  servers :=
    [⟨"web-1", "cx22", none, ["ops"], ["api"], [], [], []⟩,
      ⟨"web-2", "cx22", none, ["ops"], ["api", "admin"], [], [], []⟩]
  services :=
    [⟨"api", ["org/shop/api:v1"], ["80:4000:8080"], [], [], []⟩,
      ⟨"admin", ["org/shop/admin:v1"], ["81:4000:9090"], [], [], []⟩]
  sshKeys := [⟨"ops", "root", some "secret", none⟩]
  volumes := []

/-- The same with a server that lists a key which is not there. -/
def danglingRegistry : Registry :=
  { crowdedRegistry with
    servers := ⟨"web-3", "cx22", none, ["dev"], ["api"], [], [], []⟩ :: crowdedRegistry.servers }

def plannerOf (registry : Registry) : Planner Program.Call :=
  ⟨registry, ⟨[]⟩, .withoutToken "ghcr.io" "TOKEN", fun _ ↦ pure [], ⟨"ghcr.io", none, none⟩, ⟨[]⟩,
    fun _ ↦ Bindings.none, ⟨[], []⟩⟩

def emptyTree : FileTree := ⟨[], []⟩

theorem checksFirst_faultyClusters :
    (∃ e, ∀ schedules,
      (generateAll ⟨"out"⟩ ⟨.leastConn, false⟩ (plannerOf danglingRegistry) schedules
          emptyTree).result = .error (.unknownReference e) ∧
        (generateAll ⟨"out"⟩ ⟨.leastConn, false⟩ (plannerOf danglingRegistry) schedules
          emptyTree).tree = emptyTree) ∧
    ∃ e, e.message? = some ("server \"web-2\": host port 4000 is claimed by " ++
        "api-org-shop-api-v1, admin-org-shop-admin-v1") ∧
      ∀ schedule,
        (generateManifests ⟨"out"⟩ ⟨.leastConn, false⟩ (plannerOf crowdedRegistry) schedule
            emptyTree).result = .error e ∧
          (generateManifests ⟨"out"⟩ ⟨.leastConn, false⟩ (plannerOf crowdedRegistry) schedule
            emptyTree).tree = emptyTree := by
  constructor
  · refine ⟨⟨"web-3", "ssh_keys", .sshKey, "dev"⟩, fun schedules ↦ ?_⟩
    have hfail : writeProvisioning ⟨"out"⟩ danglingRegistry =
        Change.fail (.unknownReference ⟨"web-3", "ssh_keys", .sshKey, "dev"⟩) := rfl
    have h : (generateAll ⟨"out"⟩ ⟨.leastConn, false⟩ (plannerOf danglingRegistry) schedules
        emptyTree).result = .error (.unknownReference ⟨"web-3", "ssh_keys", .sshKey, "dev"⟩) := by
      rw [generateAll, generateProvisioning, plannerOf, hfail, Change.run_join_fail_cons]
    exact ⟨h, (checksFirst _ _ _ _ _).registry _ h (.unknownReference _)⟩
  · have hmessage : ((((plannerOf crowdedRegistry).seeing emptyTree).deployAll.result.map
        fun _ ↦ none).tryCatch fun e ↦ .ok e.message?).toOption =
          some (some ("server \"web-2\": host port 4000 is claimed by " ++
            "api-org-shop-api-v1, admin-org-shop-admin-v1")) := by decide +kernel
    cases hresult : ((plannerOf crowdedRegistry).seeing emptyTree).deployAll.result with
    | error e =>
      rw [hresult] at hmessage
      exact ⟨e, Option.some.inj hmessage,
        fun schedule ↦ (checksFirst _ _ _ ⟨schedule, schedule⟩ _).resolving e hresult⟩
    | ok deployments =>
      rw [hresult] at hmessage
      cases Option.some.inj hmessage

end Artifact

end ClusterPlan
