import ClusterPlan.Artifacts.Manifests
import ClusterPlan.Proofs.Deployment.Checks
import ClusterPlan.Proofs.Except
import ClusterPlan.Proofs.Proxy.Served
import Mathlib.Data.List.Forall2

/-!
# The plans of a cluster

Where the proxies of a cluster can be planned, every deployment has the plan of its server, made
from the placements of all deployments, and has passed the check of the ports that this plan listens
on. What such a plan serves are the proxied ports of the images on the server.
-/

namespace ClusterPlan

open Proxy.Plan (Served served)

abbrev placementsOf (deployments : List Deployment) : List Proxy.Placement :=
  deployments.flatMap (·.placements)

namespace Deployment

/-- Where the ports that are bound on the server are reached. -/
def hostAddress (d : Deployment) : String := d.address.getD d.server

/-- A proxied port of an image of a deployment, as plans see it. -/
structure Serves (d : Deployment) (i : DeployedImage) (s : Served) : Prop where
  image : i ∈ d.images
  placement : s.placement = ⟨d.server, d.address, i.image.name, i.ports⟩
  port : s.port ∈ i.ports
  proxied : s.port.isProxied = true
  proxyPort : s.port.proxyPort = some s.proxyPort

theorem mem_placementsOf {deployments : List Deployment} {p : Proxy.Placement} :
    p ∈ placementsOf deployments ↔ ∃ d ∈ deployments, ∃ i ∈ d.images,
      p = ⟨d.server, d.address, i.image.name, i.ports⟩ := by
  simp [placements, eq_comm]

theorem mem_served_placementsOf {deployments : List Deployment} {server : String} {s : Served} :
    s ∈ served server (placementsOf deployments) ↔
      ∃ d ∈ deployments, d.server = server ∧ ∃ i, d.Serves i s := by
  rw [Proxy.Plan.mem_served, mem_placementsOf]
  constructor
  · rintro ⟨⟨d, hd, i, hi, hplacement⟩, hserver, hport, hproxied, hproxyPort⟩
    rw [hplacement] at hserver hport
    exact ⟨d, hd, hserver, i, hi, hplacement, hport, hproxied, hproxyPort⟩
  · rintro ⟨d, hd, hserver, i, hi, hplacement, hport, hproxied, hproxyPort⟩
    refine ⟨⟨d, hd, i, hi, hplacement⟩, ?_, ?_, hproxied, hproxyPort⟩
    · rw [hplacement, hserver]
    · rw [hplacement]
      exact hport

theorem image_placement {d : Deployment} {i : DeployedImage} {s : Served}
    (h : d.Serves i s) : s.placement.image = i.image.name := by
  rw [h.placement]

/-- A port that is bound on the host is reached at every server with an image of its name. -/
theorem mem_backends_iff {deployments : List Deployment} {d : Deployment} {i : DeployedImage}
    {s : Served} (h : d.Serves i s) {host : String} (hhost : s.port.host = some host)
    {b : Proxy.Backend} :
    b ∈ s.backends (placementsOf deployments) ↔
      ∃ e ∈ deployments, (∃ j ∈ e.images, j.image.name = i.image.name) ∧
        b = ⟨e.hostAddress, host⟩ := by
  rw [Served.mem_backends_of_host hhost, image_placement h]
  constructor
  · rintro ⟨p, hp, hname, rfl⟩
    obtain ⟨e, he, j, hj, rfl⟩ := mem_placementsOf.mp hp
    exact ⟨e, he, ⟨j, hj, hname⟩, rfl⟩
  · rintro ⟨e, he, ⟨j, hj, hname⟩, rfl⟩
    exact ⟨_, mem_placementsOf.mpr ⟨e, he, j, hj, rfl⟩, hname, rfl⟩

end Deployment

namespace Artifact

theorem planProxy_eq_ok_iff {options : Proxy.PlanOptions} {placements : List Proxy.Placement}
    {d : Deployment} {plan : Proxy.Plan} :
    planProxy options placements d = .ok plan ↔
      Proxy.plan options d.server placements = .ok plan ∧ d.checkProxyPorts plan = .ok () := by
  unfold planProxy
  split
  next e herror => simp [herror]
  next found hfound =>
    rw [Except.map_eq_ok_iff, hfound]
    constructor
    · rintro ⟨⟨⟩, hcheck, rfl⟩
      exact ⟨rfl, hcheck⟩
    · rintro ⟨hplan, hcheck⟩
      obtain rfl := Except.ok.inj hplan
      exact ⟨(), hcheck, rfl⟩

theorem planAll_eq_ok_iff {options : Proxy.PlanOptions} {placements : List Proxy.Placement}
    {deployments : List Deployment} {plans : List Proxy.Plan} :
    planAll options placements deployments = .ok plans ↔
      List.Forall₂ (fun d plan ↦ planProxy options placements d = .ok plan) deployments plans := by
  induction deployments generalizing plans with
  | nil => simp [planAll, eq_comm]
  | cons d rest ih =>
    rw [planAll, List.forall₂_cons_left_iff]
    split
    next e herror => simp [herror]
    next plan hplan =>
      rw [Except.map_eq_ok_iff]
      constructor
      · rintro ⟨others, hothers, rfl⟩
        exact ⟨plan, others, hplan, ih.mp hothers, rfl⟩
      · rintro ⟨plan', others, hplan', hothers, rfl⟩
        obtain rfl := Except.ok.inj (hplan.symm.trans hplan')
        exact ⟨others, ih.mpr hothers, rfl⟩

theorem planProxies_eq_ok_iff {options : Proxy.PlanOptions} {deployments : List Deployment}
    {plans : List Proxy.Plan} :
    planProxies options deployments = .ok plans ↔
      List.Forall₂
        (fun d plan ↦ Proxy.plan options d.server (placementsOf deployments) = .ok plan ∧
          d.checkProxyPorts plan = .ok ()) deployments plans := by
  rw [planProxies, planAll_eq_ok_iff]
  simp only [planProxy_eq_ok_iff]

section PlanProxies

variable {options : Proxy.PlanOptions} {deployments : List Deployment} {plans : List Proxy.Plan}
  (h : planProxies options deployments = .ok plans)

include h

theorem length_plans : plans.length = deployments.length :=
  (planProxies_eq_ok_iff.mp h).length_eq.symm

/-- The plan of a deployment is that of its server among all placements. -/
theorem eq_ofServed_of_mem_zip {d : Deployment} {plan : Proxy.Plan}
    (hd : (d, plan) ∈ deployments.zip plans) :
    plan = Proxy.Plan.ofServed options d.server (placementsOf deployments)
      (served d.server (placementsOf deployments)) := by
  obtain ⟨hplan, -⟩ := (List.forall₂_iff_zip.mp (planProxies_eq_ok_iff.mp h)).2 hd
  exact (Proxy.Plan.plan_eq_ok_iff.mp hplan).2

theorem checkProxyPorts_of_mem_zip {d : Deployment} {plan : Proxy.Plan}
    (hd : (d, plan) ∈ deployments.zip plans) : d.checkProxyPorts plan = .ok () :=
  ((List.forall₂_iff_zip.mp (planProxies_eq_ok_iff.mp h)).2 hd).2

end PlanProxies

end Artifact

/-! ### Ports of every kind -/

/-- A port that the proxy serves and the server binds, one that only the proxy serves, and a direct
one. -/
def mixedPorts : List Proxy.Port :=
  [⟨some "80", some "4000", "8080", false, []⟩, ⟨some "81", none, "9000", false, []⟩,
    ⟨some "90", none, "7000", true, []⟩]

def mixedImage : DeployedImage :=
  ⟨⟨"api", ⟨"ghcr.io", "shop", "api", "v1"⟩⟩, mixedPorts, [], []⟩

/-- An image on two servers, one of which has an address. -/
def mixed : List Deployment :=
  [⟨"web-1", some "10.0.0.1", [mixedImage]⟩, ⟨"web-2", none, [mixedImage]⟩]

def mixedPlan (server : String) : Proxy.Plan :=
  ⟨server,
    [⟨"api-shop-api-v1-8080", .leastConn, [⟨"10.0.0.1", "4000"⟩, ⟨"web-2", "4000"⟩]⟩,
      ⟨"api-shop-api-v1-9000", .leastConn, [⟨"api-shop-api-v1", "9000"⟩]⟩],
    [⟨"_", "80", [⟨"/", "api-shop-api-v1-8080"⟩]⟩, ⟨"_", "81", [⟨"/", "api-shop-api-v1-9000"⟩]⟩]⟩

def mixedPlans : List Proxy.Plan := [mixedPlan "web-1", mixedPlan "web-2"]

theorem planProxies_mixed :
    Artifact.planProxies ⟨.leastConn, false⟩ mixed = .ok mixedPlans :=
  Artifact.planProxies_eq_ok_iff.mpr <|
    .cons ⟨rfl, Deployment.checkProxyPorts_eq_ok_iff.mpr (by decide)⟩ <|
      .cons ⟨rfl, Deployment.checkProxyPorts_eq_ok_iff.mpr (by decide)⟩ .nil

end ClusterPlan
