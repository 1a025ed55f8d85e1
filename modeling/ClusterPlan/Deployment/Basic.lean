import ClusterPlan.Image.Basic
import ClusterPlan.Proxy.Plan

/-!
# Deployments

What runs on a server once its services are resolved: images with their ports, their environment
and their mounts.
-/

namespace ClusterPlan

/-- An image as it runs on one server. -/
structure DeployedImage where
  image : Image
  ports : List Proxy.Port
  environment : List (String × String)
  volumes : List String
  deriving Repr, DecidableEq

structure Deployment where
  server : String
  address : Option String
  images : List DeployedImage
  deriving Repr, DecidableEq

namespace Deployment

/-- The images of a deployment as the proxies of all servers see them. -/
def placements (d : Deployment) : List Proxy.Placement :=
  d.images.map fun i ↦ ⟨d.server, d.address, i.image.name, i.ports⟩

end Deployment

end ClusterPlan
