import ClusterPlan.Proofs.Compose.Services
import ClusterPlan.Proofs.Deployment.Plans
import ClusterPlan.Proofs.Proxy.Resolved
import ClusterPlan.Proofs.Text.Parts
import Mathlib.Data.List.Flatten

/-!
# Ports that a manifest publishes

The entries of a manifest publish each port of the server at most once, over the services of all
images and that of the proxy together. The ports of the images are told apart by the check of the
deployment, those of the proxy by the plan that lists them, and the ones from the others by the check
that every plan has passed. For this the ports have to be numbers as they are read: the texts of one
number could be two entries otherwise.
-/

namespace ClusterPlan.Compose

open Deployment (boundNumber? portNumber?)
open Proxy.Plan (served)

/-- The port of the server that an entry publishes: what stands before its colon. -/
def hostPort? (entry : String) : Option Nat :=
  (Text.splitFirst? ':' entry.toList).bind fun (host, _) ↦
    Decimal.readBounded? Proxy.Port.limit host

def Service.hostPorts (s : Service) : List (Option Nat) := s.ports.map hostPort?

def hostPorts (services : List (String × Service)) : List (Option Nat) :=
  services.flatMap (·.2.hostPorts)

/-- Every entry publishes a port of the server, and no two of them the same. -/
structure DistinctHostPorts (services : List (String × Service)) : Prop where
  isPort : ∀ host ∈ hostPorts services, ∃ n, 0 < n ∧ n ≤ Proxy.Port.limit ∧ host = some n
  nodup : (hostPorts services).Nodup

/-! ### Entries -/

theorem hostPort?_entry {bound : String} (h : Proxy.Port.IsNumber bound) (container : String) :
    hostPort? (bound ++ ":" ++ container) = portNumber? bound := by
  have hcolon : ':' ∉ bound.toList := fun hcolon ↦ absurd (h.isDigit ':' hcolon) (by decide)
  have htext : (bound ++ ":" ++ container).toList = bound.toList ++ ':' :: container.toList := by
    simp
  rw [hostPort?, htext, Text.splitFirst?_append_cons hcolon]
  rfl

/-! ### Services -/

theorem hostPorts_proxyService {d : Deployment} {plan : Proxy.Plan}
    (h : ∀ l ∈ plan.listeners, Proxy.Port.IsNumber l.port) :
    (proxyService d plan).hostPorts = plan.listenPorts.map portNumber? := by
  rw [Service.hostPorts, proxyService, List.map_map]
  refine List.map_congr_left fun port hport ↦ ?_
  obtain ⟨l, hl, rfl⟩ := Proxy.Plan.mem_listenPorts.mp hport
  exact hostPort?_entry (h l hl) l.port

/-- An image publishes no more than the ports it binds. -/
theorem sublist_hostPorts_imageService {i : DeployedImage} (h : ∀ p ∈ i.ports, p.IsRead) :
    (imageService i).hostPorts.Sublist ((i.ports.filterMap boundNumber?).map some) := by
  have hentry : ∀ p ∈ i.ports,
      ((p.bound?.map fun bound ↦ bound ++ ":" ++ p.container).map hostPort?) =
        (boundNumber? p).map some := by
    intro p hp
    unfold boundNumber?
    cases hbound : p.bound? with
    | none => rfl
    | some bound =>
      have hnumber := (h p hp).isNumber_bound hbound
      obtain ⟨n, -, -, hn⟩ := hnumber.exists_read
      have hport : portNumber? bound = some n := hn
      rw [Option.map_some, Option.map_some, hostPort?_entry hnumber, Option.bind_some, hport,
        Option.map_some]
  have hpublished := (Proxy.Plan.addNew_sublist [] (i.ports.filterMap fun p ↦
    p.bound?.map fun bound ↦ bound ++ ":" ++ p.container)).map hostPort?
  rw [List.nil_append, List.map_filterMap, List.filterMap_congr hentry,
    ← List.map_filterMap] at hpublished
  exact hpublished

section Manifest

variable {d : Deployment} {plan : Proxy.Plan}
  (hports : ∀ i ∈ d.images, ∀ p ∈ i.ports, p.IsRead)
  (hlisten : ∀ l ∈ plan.listeners, Proxy.Port.IsNumber l.port)

include hports hlisten

/-- All that a manifest publishes are ports of the proxy and ports that images bind. -/
theorem subperm_hostPorts :
    (hostPorts (services d plan)).Subperm
      (plan.listenPorts.map portNumber? ++ (d.bindings.map Prod.fst).map some) := by
  have hservices : hostPorts (services d plan) =
      ((services d plan).map Prod.snd).flatMap (·.hostPorts) := by
    rw [List.flatMap_map]
    rfl
  have himages : (d.images.flatMap fun i ↦ (imageService i).hostPorts).Sublist
      ((d.bindings.map Prod.fst).map some) := by
    rw [Deployment.bindings_numbers, List.map_flatMap]
    exact .flatMap_right _ fun i hi ↦ sublist_hostPorts_imageService (hports i hi)
  -- Services may have taken the place of others, which only leaves entries out.
  obtain ⟨part, hperm, hsublist⟩ := subperm_services d plan
  have hall := hsublist.flatMap (·.hostPorts)
  rw [List.flatMap_cons, hostPorts_proxyService hlisten, List.flatMap_map] at hall
  rw [hservices]
  exact ⟨_, hperm.flatMap_right _, hall.trans (himages.append_left _)⟩

theorem distinctHostPorts_services (hbound : d.checkHostPorts = .ok ())
    (hproxy : d.checkProxyPorts plan = .ok ()) : DistinctHostPorts (services d plan) where
  isPort host hhost := by
    rcases List.mem_append.mp ((subperm_hostPorts hports hlisten).subset hhost) with hhost | hhost
    · obtain ⟨l, hl, rfl⟩ := Proxy.Plan.mem_map_listenPorts.mp hhost
      exact (hlisten l hl).exists_read
    · obtain ⟨n, hn, rfl⟩ := List.mem_map.mp hhost
      rw [Deployment.bindings_numbers] at hn
      obtain ⟨i, hi, hn⟩ := List.mem_flatMap.mp hn
      obtain ⟨p, hp, hn⟩ := List.mem_filterMap.mp hn
      obtain ⟨bound, hp', hread⟩ := Option.bind_eq_some_iff.mp hn
      obtain ⟨m, hpos, hlimit, hm⟩ := ((hports i hi p hp).isNumber_bound hp').exists_read
      obtain rfl := Option.some.inj (hm.symm.trans hread)
      exact ⟨m, hpos, hlimit, rfl⟩
  nodup := by
    have hlistened : (plan.listenPorts.map portNumber?).Nodup := by
      refine List.Pairwise.map _ (fun a b hlt hsame ↦ ?_) (Proxy.Plan.pairwise_listenPorts hlisten)
      have hnumber : Proxy.Plan.portNumber a = Proxy.Plan.portNumber b := congrArg (·.getD 0) hsame
      exact absurd hnumber (Nat.ne_of_lt hlt)
    have himages : ((d.bindings.map Prod.fst).map some).Nodup :=
      (Deployment.checkHostPorts_eq_ok_iff.mp hbound).map fun _ _ ↦ Option.some.inj
    have hapart : (plan.listenPorts.map portNumber?).Disjoint
        ((d.bindings.map Prod.fst).map some) := by
      intro host hlistener himage
      obtain ⟨l, hl, rfl⟩ := Proxy.Plan.mem_map_listenPorts.mp hlistener
      obtain ⟨n, hn, hsame⟩ := List.mem_map.mp himage
      exact Deployment.notMem_bindings_of_checkProxyPorts hproxy hl hsame.symm hn
    obtain ⟨part, hperm, hsublist⟩ := subperm_hostPorts hports hlisten
    exact hperm.nodup_iff.mp (hsublist.nodup (hlistened.append himages hapart))

end Manifest

/-- On every server that has passed its check, if the ports of all images are resolved ones. -/
theorem distinctHostPorts_of_planProxies {options : Proxy.PlanOptions}
    {deployments : List Deployment} {plans : List Proxy.Plan}
    (hports : ∀ d ∈ deployments, ∀ i ∈ d.images, ∃ image ports proxies exposed,
      Proxy.resolvePorts image ports proxies exposed = .ok i.ports)
    (hbound : ∀ d ∈ deployments, d.checkHostPorts = .ok ())
    (h : Artifact.planProxies options deployments = .ok plans) :
    plans.length = deployments.length ∧
      ∀ m ∈ deployments.zip plans, text m.1 m.2 = written m.1.server (services m.1 m.2) ∧
        DistinctHostPorts (services m.1 m.2) := by
  have hread : ∀ d ∈ deployments, ∀ i ∈ d.images, ∀ p ∈ i.ports, p.IsRead := by
    intro d hd i hi
    obtain ⟨image, ports, proxies, exposed, hresolved⟩ := hports d hd i hi
    exact Proxy.isRead_of_mem_resolvePorts hresolved
  refine ⟨Artifact.length_plans h, ?_⟩
  rintro ⟨d, plan⟩ hd
  have hmem : d ∈ deployments := (List.of_mem_zip hd).1
  have hlisten : ∀ l ∈ plan.listeners, Proxy.Port.IsNumber l.port := by
    intro l hl
    rw [Artifact.eq_ofServed_of_mem_zip h hd] at hl
    obtain ⟨s, hs, hport⟩ := Proxy.Plan.exists_served_of_mem_listeners _ _ _ _ hl
    obtain ⟨e, he, -, i, hserves⟩ := Deployment.mem_served_placementsOf.mp hs
    obtain ⟨text, htext, hnumber⟩ :=
      (hread e he i hserves.image s.port hserves.port).proxyPort
    rw [hserves.proxyPort] at htext
    rw [← hport, Option.some.inj htext]
    exact hnumber
  exact ⟨text_eq_written d plan, distinctHostPorts_services (hread d hmem) hlisten (hbound d hmem)
    (Artifact.checkProxyPorts_of_mem_zip h hd)⟩

/-- Where a direct port and a bound one stand beside the two of the proxy. -/
theorem distinctHostPorts_mixed :
    Artifact.planProxies ⟨.leastConn, false⟩ mixed = .ok mixedPlans ∧
      ∀ m ∈ mixed.zip mixedPlans, text m.1 m.2 = written m.1.server (services m.1 m.2) ∧
        DistinctHostPorts (services m.1 m.2) := by
  have hresolved : Proxy.resolvePorts "api-shop-api-v1" ["80:4000:8080", "81:9000", "90:90:7000"]
      [] [] = .ok mixedPorts := by
    decide +kernel
  have hports : ∀ d ∈ mixed, ∀ i ∈ d.images, ∃ image ports proxies exposed,
      Proxy.resolvePorts image ports proxies exposed = .ok i.ports := by
    rintro d (_ | ⟨_, _ | ⟨_, hd⟩⟩) i hi
    · obtain rfl := List.mem_singleton.mp hi
      exact ⟨_, _, _, _, hresolved⟩
    · obtain rfl := List.mem_singleton.mp hi
      exact ⟨_, _, _, _, hresolved⟩
    · exact absurd hd List.not_mem_nil
  have hbound : ∀ d ∈ mixed, d.checkHostPorts = .ok () := by
    rintro d (_ | ⟨_, _ | ⟨_, hd⟩⟩)
    · rfl
    · rfl
    · exact absurd hd List.not_mem_nil
  exact ⟨planProxies_mixed, (distinctHostPorts_of_planProxies hports hbound planProxies_mixed).2⟩

end ClusterPlan.Compose
