import ClusterPlan.Artifacts.Keys
import ClusterPlan.Artifacts.Manifests
import ClusterPlan.Artifacts.Provisioning
import ClusterPlan.Deployment.Planner

/-!
# Generation

All artifacts of a cluster: first the provisioning files beside the key files, then the manifests of
the servers as they were resolved.
-/

namespace ClusterPlan

/-- What a generation leaves behind: the tree, the calls that it made, and the deployments. -/
structure Generated (κ : Type) where
  tree : FileTree
  calls : List κ
  result : Except ArtifactError (List Deployment)

namespace Artifact

variable {κ : Type}

def generateProvisioning (layout : Layout) (registry : Registry) : Writing :=
  Change.join [writeProvisioning layout registry, writeKeys layout registry]

def generateManifests (layout : Layout) (options : Proxy.PlanOptions) (planner : Planner κ)
    (schedule : Change.Schedule) (tree : FileTree) : Generated κ :=
  let resolved := (planner.seeing tree).deployAll
  match resolved.result with
  | .error e => ⟨tree, resolved.log, .error e⟩
  | .ok deployments =>
    let (after, written) := (writeManifests layout options deployments).run schedule tree
    ⟨after, resolved.log, written.map fun () ↦ deployments⟩

def generateAll (layout : Layout) (options : Proxy.PlanOptions) (planner : Planner κ)
    (schedules : Schedules) (tree : FileTree) : Generated κ :=
  let (after, provisioned) :=
    (generateProvisioning layout planner.registry).run schedules.provisioning tree
  match provisioned with
  | .error e => ⟨after, [], .error e⟩
  | .ok () => generateManifests layout options planner schedules.manifests after

end Artifact

end ClusterPlan
