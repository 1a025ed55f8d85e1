import ClusterPlan.Proofs.Compose.Services
import ClusterPlan.Proofs.Deployment.Plans

/-!
# Plans and manifests agree

The plan of a proxy and the manifest of its server are made from the same ports, each on its own
terms. They agree on every port of the server: what the plan reaches at a container is a port that
the container's service exposes, what it reaches at the server is a port that the service of the
image publishes, and the service of the proxy publishes what the plan listens on and nothing else.

The manifest is meant as its text, in which the services stand with their ports and with what they
expose. The names of images have to tell them apart for this, from each other and from the proxy. What is
reached at other servers is no matter of the manifest.
-/

namespace ClusterPlan.Compose

open Proxy.Plan (Served served)

/-- The manifests of a server hold what the plan of the server needs. Each deployment of the server
has a manifest of its own, with the services of its images. -/
structure Agrees (deployments : List Deployment) (plans : List Proxy.Plan) (d : Deployment)
    (plan : Proxy.Plan) : Prop where
  manifests : ∀ m ∈ deployments.zip plans, m.1.server = d.server →
    text m.1 m.2 = written d.server (services m.1 m.2)
  exposed : ∀ m ∈ deployments.zip plans, m.1.server = d.server → ∀ i s, m.1.Serves i s →
    s.port.host = none → ∀ pool ∈ plan.pools, pool.name = s.poolName →
      ∀ b ∈ pool.backends, b ∈ s.backends (placementsOf deployments) →
        ∃ service, (b.address, service) ∈ services m.1 m.2 ∧ b.port ∈ service.expose
  published : ∀ m ∈ deployments.zip plans, m.1.server = d.server → ∀ i s, m.1.Serves i s →
    ∀ host, s.port.host = some host → ∀ pool ∈ plan.pools, pool.name = s.poolName →
      ⟨m.1.hostAddress, host⟩ ∈ pool.backends ∧
        ∃ service, (i.image.name, service) ∈ services m.1 m.2 ∧
          host ++ ":" ++ s.port.container ∈ service.ports
  listened : ∀ entry,
    (∃ service, (Deployment.proxyName, service) ∈ services d plan ∧ entry ∈ service.ports) ↔
      ∃ l ∈ plan.listeners, l.port ++ ":" ++ l.port = entry

section Services

variable {d : Deployment} {plan : Proxy.Plan} (hnames : (d.images.map (·.image.name)).Nodup)
  (hproxy : Deployment.proxyName ∉ d.images.map (·.image.name))

include hnames hproxy

/-- The only backend of a port that is bound nowhere is a container of the server. -/
theorem exists_expose_of_serves {i : DeployedImage} {s : Served} (h : d.Serves i s)
    (hhost : s.port.host = none) {placements : List Proxy.Placement} {b : Proxy.Backend}
    (hb : b ∈ s.backends placements) :
    ∃ service, (b.address, service) ∈ services d plan ∧ b.port ∈ service.expose := by
  have hbackend : b = ⟨i.image.name, s.port.container⟩ := by
    rw [Served.backends, hhost, h.placement] at hb
    exact List.mem_singleton.mp hb
  have hunbound : s.port.bound? = none := (Proxy.Port.bound?_of_isProxied h.proxied).trans hhost
  subst hbackend
  refine ⟨imageService i, (mem_services_iff hnames hproxy).mpr (.inl ⟨i, h.image, rfl⟩), ?_⟩
  exact mem_exposedPorts.mpr ⟨s.port, h.port, hunbound, rfl⟩

theorem exists_published_of_serves {i : DeployedImage} {s : Served} (h : d.Serves i s)
    {host : String} (hhost : s.port.host = some host) :
    ∃ service, (i.image.name, service) ∈ services d plan ∧
      host ++ ":" ++ s.port.container ∈ service.ports := by
  have hbound : s.port.bound? = some host := (Proxy.Port.bound?_of_isProxied h.proxied).trans hhost
  refine ⟨imageService i, (mem_services_iff hnames hproxy).mpr (.inl ⟨i, h.image, rfl⟩), ?_⟩
  exact mem_published.mpr ⟨s.port, h.port, host, hbound, rfl⟩

/-- A service of the name of the proxy is the proxy's own. -/
theorem eq_proxyService_of_mem_services {service : Service}
    (h : (Deployment.proxyName, service) ∈ services d plan) :
    plan.isEmpty = false ∧ service = proxyService d plan := by
  rcases (mem_services_iff hnames hproxy).mp h with ⟨i, hi, hentry⟩ | ⟨hsome, hentry⟩
  · have hname : Deployment.proxyName = i.image.name := (Prod.mk.inj hentry).1
    exact absurd (hname ▸ List.mem_map_of_mem hi) hproxy
  · exact ⟨hsome, (Prod.mk.inj hentry).2⟩

theorem exists_proxy_entry_iff (hempty : plan.isEmpty = true → plan.listeners = [])
    (entry : String) :
    (∃ service, (Deployment.proxyName, service) ∈ services d plan ∧ entry ∈ service.ports) ↔
      ∃ l ∈ plan.listeners, l.port ++ ":" ++ l.port = entry := by
  constructor
  · rintro ⟨service, hservice, hentry⟩
    obtain ⟨-, rfl⟩ := eq_proxyService_of_mem_services hnames hproxy hservice
    exact Proxy.Plan.mem_map_listenPorts.mp hentry
  · rintro ⟨l, hl, hentry⟩
    have hsome : plan.isEmpty = false := by
      by_contra hnone
      have hlisteners := hempty (by simpa using hnone)
      rw [hlisteners] at hl
      exact absurd hl List.not_mem_nil
    refine ⟨proxyService d plan, (mem_services_iff hnames hproxy).mpr (.inr ⟨hsome, rfl⟩), ?_⟩
    exact Proxy.Plan.mem_map_listenPorts.mpr ⟨l, hl, hentry⟩

end Services

/-- On every server, whatever the ports of its images are. -/
theorem agrees_of_planProxies {options : Proxy.PlanOptions} {deployments : List Deployment}
    {plans : List Proxy.Plan}
    (hnames : ∀ d ∈ deployments, (d.images.map (·.image.name)).Nodup)
    (hproxy : ∀ d ∈ deployments, Deployment.proxyName ∉ d.images.map (·.image.name))
    (h : Artifact.planProxies options deployments = .ok plans) :
    plans.length = deployments.length ∧
      ∀ m ∈ deployments.zip plans, Agrees deployments plans m.1 m.2 := by
  refine ⟨Artifact.length_plans h, ?_⟩
  rintro ⟨d, plan⟩ hd
  have hplan := Artifact.eq_ofServed_of_mem_zip h hd
  have hmem (m : Deployment × Proxy.Plan) (hm : m ∈ deployments.zip plans) : m.1 ∈ deployments :=
    (List.of_mem_zip hm).1
  refine ⟨?_, ?_, ?_, ?_⟩
  · intro m _ hserver
    exact hserver ▸ text_eq_written m.1 m.2
  · intro m hm _ i s hserves hhost pool _ _ b _ hb
    exact exists_expose_of_serves (hnames _ (hmem m hm)) (hproxy _ (hmem m hm)) hserves hhost hb
  · intro m hm hserver i s hserves host hhost pool hpool hname
    refine ⟨?_, exists_published_of_serves (hnames _ (hmem m hm)) (hproxy _ (hmem m hm))
      hserves hhost⟩
    have hs : s ∈ served d.server (placementsOf deployments) :=
      Deployment.mem_served_placementsOf.mpr ⟨m.1, hmem m hm, hserver, i, hserves⟩
    have hown : ⟨m.1.hostAddress, host⟩ ∈ s.backends (placementsOf deployments) :=
      (Deployment.mem_backends_iff hserves hhost).mpr
        ⟨m.1, hmem m hm, ⟨i, hserves.image, rfl⟩, rfl⟩
    dsimp only at hpool
    rw [hplan] at hpool
    exact (Proxy.Plan.mem_backends_of_mem_pools _ _ _ hpool).mpr ⟨s, hs, hname.symm, hown⟩
  · have hempty : plan.isEmpty = true → plan.listeners = [] := by
      rw [hplan]
      exact Proxy.Plan.listeners_eq_nil_of_isEmpty _ _ _ _
    exact exists_proxy_entry_iff (hnames d (hmem _ hd)) (hproxy d (hmem _ hd)) hempty

/-- On two servers, the second without an address. -/
theorem agrees_mixed :
    Artifact.planProxies ⟨.leastConn, false⟩ mixed = .ok mixedPlans ∧
      ∀ m ∈ mixed.zip mixedPlans, Agrees mixed mixedPlans m.1 m.2 :=
  ⟨planProxies_mixed, (agrees_of_planProxies (by decide) (by decide) planProxies_mixed).2⟩

end ClusterPlan.Compose
