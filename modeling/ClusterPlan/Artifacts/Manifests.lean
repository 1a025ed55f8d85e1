import ClusterPlan.Artifacts.Layout
import ClusterPlan.Artifacts.Writing
import ClusterPlan.Compose
import ClusterPlan.Proxy.Nginx

/-!
# Manifests

The files of the servers: the compose manifest of each, and the configuration of its proxy if there
is anything for the proxy to do. Nothing is written unless the proxies of all servers can be
planned.
-/

namespace ClusterPlan.Artifact

/-- The plan of the proxy of one server among the placements of all. -/
def planProxy (options : Proxy.PlanOptions) (placements : List Proxy.Placement)
    (d : Deployment) : Except ArtifactError Proxy.Plan :=
  match Proxy.plan options d.server placements with
  | .error e => .error (.routeConflict e)
  | .ok plan => (d.checkProxyPorts plan).map fun () ↦ plan

def planAll (options : Proxy.PlanOptions) (placements : List Proxy.Placement) :
    List Deployment → Except ArtifactError (List Proxy.Plan)
  | [] => .ok []
  | d :: rest =>
    match planProxy options placements d with
    | .error e => .error e
    | .ok plan => (planAll options placements rest).map (plan :: ·)

/-- The plans of the proxies of all servers. -/
def planProxies (options : Proxy.PlanOptions) (deployments : List Deployment) :
    Except ArtifactError (List Proxy.Plan) :=
  planAll options (deployments.flatMap (·.placements)) deployments

/-- Write the configuration of a proxy, or remove what is left of one that has nothing to do. -/
def writeProxy (layout : Layout) (server : String) (plan : Proxy.Plan) : Writing :=
  let path := layout.proxyFile server
  if plan.isEmpty then removeStale path
  else match Proxy.Nginx.config plan with
    | .ok text => write path text
    | .error e => Change.fail (.template (.proxyConfig server) e)

def writeManifest (layout : Layout) (d : Deployment) (plan : Proxy.Plan) : Writing :=
  (write (layout.composeFile d.server) (Compose.text d plan)).andThen
    (writeProxy layout d.server plan)

def writeManifests (layout : Layout) (options : Proxy.PlanOptions)
    (deployments : List Deployment) : Writing :=
  match planProxies options deployments with
  | .error e => Change.fail e
  | .ok plans =>
    Change.join ((deployments.zip plans).map fun (d, plan) ↦ writeManifest layout d plan)

end ClusterPlan.Artifact
