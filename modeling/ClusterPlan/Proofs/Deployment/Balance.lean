import ClusterPlan.Proofs.Deployment.Plans
import ClusterPlan.Proofs.Proxy.Routes

/-!
# Balancing between servers

The requests for a port that is bound on the host are spread over all servers that run its image.
Which servers these are is told by the names of the images alone. A name is unique on one server,
but not among all of them, because different references can have the same name: what is spread
stays with one reference exactly when, wherever the name of a balanced image is found, its reference
runs as well.
-/

namespace ClusterPlan

open Proxy.Plan (Served served firstClaimant?)

/-- Some server at an address runs an image of a reference. -/
def RunsAt (deployments : List Deployment) (address reference : String) : Prop :=
  ∃ d ∈ deployments, d.hostAddress = address ∧ ∃ i ∈ d.images, i.image.qualified = reference

/-- A port whose pool is in the plan of the server: one of the pool's ports is the first that claims
something. -/
def Routed (deployments : List Deployment) (server : String) (s : Served) : Prop :=
  ∃ key, (firstClaimant? (served server (placementsOf deployments)) key).map (·.poolName) =
    some s.poolName

/-- Every backend that a pool takes from a port that is bound on the host runs the reference of the
image that has the port. -/
def StaysWithinImages (deployments : List Deployment) (server : String) (plan : Proxy.Plan) :
    Prop :=
  ∀ pool ∈ plan.pools, ∀ b ∈ pool.backends, ∀ d ∈ deployments, d.server = server →
    ∀ i s, d.Serves i s → s.poolName = pool.name → s.port.host.isSome →
      b ∈ s.backends (placementsOf deployments) → RunsAt deployments b.address i.image.qualified

theorem staysWithinImages_iff {options : Proxy.PlanOptions} {deployments : List Deployment}
    {plans : List Proxy.Plan} (h : Artifact.planProxies options deployments = .ok plans)
    {d : Deployment} {plan : Proxy.Plan} (hd : (d, plan) ∈ deployments.zip plans) :
    StaysWithinImages deployments d.server plan ↔
      ∀ e ∈ deployments, e.server = d.server → ∀ i s, e.Serves i s → s.port.host.isSome →
        Routed deployments d.server s →
          ∀ f ∈ deployments, f.hostAddress ≠ e.hostAddress →
            (∃ j ∈ f.images, j.image.name = i.image.name) →
              RunsAt deployments f.hostAddress i.image.qualified := by
  obtain rfl := Artifact.eq_ofServed_of_mem_zip h hd
  constructor
  · intro hstays e he hserver i s hserves hsome hrouted f hf _ hname
    obtain ⟨host, hhost⟩ := Option.isSome_iff_exists.mp hsome
    obtain ⟨pool, hpool, hpoolname⟩ :=
      (Proxy.Plan.exists_mem_pools_iff options d.server _ _).mpr hrouted
    have hb : ⟨f.hostAddress, host⟩ ∈ s.backends (placementsOf deployments) :=
      (Deployment.mem_backends_iff hserves hhost).mpr ⟨f, hf, hname, rfl⟩
    have hs : s ∈ served d.server (placementsOf deployments) :=
      Deployment.mem_served_placementsOf.mpr ⟨e, he, hserver, i, hserves⟩
    have hmem : ⟨f.hostAddress, host⟩ ∈ pool.backends :=
      (Proxy.Plan.mem_backends_of_mem_pools _ _ _ hpool).mpr ⟨s, hs, hpoolname.symm, hb⟩
    exact hstays pool hpool _ hmem e he hserver i s hserves hpoolname.symm hsome hb
  · intro hothers pool hpool b _ e he hserver i s hserves hpoolname hsome hb
    obtain ⟨host, hhost⟩ := Option.isSome_iff_exists.mp hsome
    obtain ⟨f, hf, hname, rfl⟩ := (Deployment.mem_backends_iff hserves hhost).mp hb
    have hrouted : Routed deployments d.server s :=
      (Proxy.Plan.exists_mem_pools_iff options d.server _ _).mp ⟨pool, hpool, hpoolname.symm⟩
    by_cases hown : f.hostAddress = e.hostAddress
    · exact ⟨e, he, hown.symm, i, hserves.image, rfl⟩
    · exact hothers e he hserver i s hserves hsome hrouted f hf hown hname

/-! ### Two references of one name -/

def balancedPort : Proxy.Port := ⟨some "80", some "4000", "8080", false, []⟩

def firstImage : DeployedImage :=
  ⟨⟨"api", ⟨"ghcr.io", "x-y", "z", "v1"⟩⟩, [balancedPort], [], []⟩

def secondImage : DeployedImage :=
  ⟨⟨"api-x", ⟨"ghcr.io", "y", "z", "v1"⟩⟩, [balancedPort], [], []⟩

/-- Images of two services, one on each server. -/
def namesakes : List Deployment :=
  [⟨"web-1", some "10.0.0.1", [firstImage]⟩, ⟨"web-2", some "10.0.0.2", [secondImage]⟩]

def namesakePlan (server : String) : Proxy.Plan :=
  ⟨server, [⟨"api-x-y-z-v1-8080", .leastConn, [⟨"10.0.0.1", "4000"⟩, ⟨"10.0.0.2", "4000"⟩]⟩],
    [⟨"_", "80", [⟨"/", "api-x-y-z-v1-8080"⟩]⟩]⟩

/-- Every server passes its checks, and yet the first sends requests for its image to the second,
which does not run it. -/
theorem not_staysWithinImages_namesakes :
    (∀ d ∈ namesakes, d.checkImageNames = .ok () ∧ d.checkHostPorts = .ok ()) ∧
      Artifact.planProxies ⟨.leastConn, false⟩ namesakes =
        .ok [namesakePlan "web-1", namesakePlan "web-2"] ∧
      ¬StaysWithinImages namesakes "web-1" (namesakePlan "web-1") := by
  have hplans : Artifact.planProxies ⟨.leastConn, false⟩ namesakes =
      .ok [namesakePlan "web-1", namesakePlan "web-2"] :=
    Artifact.planProxies_eq_ok_iff.mpr <|
      .cons ⟨rfl, Deployment.checkProxyPorts_eq_ok_iff.mpr (by decide)⟩ <|
        .cons ⟨rfl, Deployment.checkProxyPorts_eq_ok_iff.mpr (by decide)⟩ .nil
  refine ⟨?_, hplans, fun hstays ↦ ?_⟩
  · rintro d (_ | ⟨_, _ | ⟨_, hd⟩⟩)
    · exact ⟨rfl, rfl⟩
    · exact ⟨rfl, rfl⟩
    · exact absurd hd List.not_mem_nil
  have hothers := (staysWithinImages_iff hplans (.head _)).mp hstays
  have hserves : Deployment.Serves ⟨"web-1", some "10.0.0.1", [firstImage]⟩ firstImage
      ⟨⟨"web-1", some "10.0.0.1", firstImage.image.name, [balancedPort]⟩, balancedPort, "80"⟩ :=
    ⟨.head _, rfl, .head _, rfl, rfl⟩
  obtain ⟨d, hd, haddress, i, hi, hreference⟩ :=
    hothers _ (.head _) rfl _ _ hserves rfl ⟨("_", "80", "/"), rfl⟩ _ (.tail _ (.head _)) (by decide)
      ⟨secondImage, .head _, rfl⟩
  rcases hd with _ | ⟨_, _ | ⟨_, hd⟩⟩
  · exact absurd haddress (by decide)
  · obtain rfl := List.mem_singleton.mp hi
    exact absurd hreference (by decide)
  · exact absurd hd List.not_mem_nil

end ClusterPlan
