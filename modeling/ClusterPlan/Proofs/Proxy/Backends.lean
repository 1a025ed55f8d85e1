import ClusterPlan.Proofs.Proxy.Routes

/-!
# Backends on other servers

A port that is bound on the host is balanced over all placements of its image, and each of them is
reached at the host port of the server that is planned. The other placements have ports of their
own, though, which nothing compares with that one: all backends are there exactly when every other
server that runs the image binds the same host port for the same container port.
-/

namespace ClusterPlan.Proxy.Plan

/-- At the address of the backend an image is placed that binds the port of the backend for a
container port. -/
def IsBound (placements : List Placement) (image container : String) (b : Backend) : Prop :=
  ∃ p ∈ placements, p.image = image ∧ p.hostAddress = b.address ∧
    ∃ port ∈ p.ports, port.container = container ∧ port.bound? = some b.port

/-- Every backend that a pool of a plan takes from a port that is bound on the host is bound. -/
def BackendsBound (server : String) (placements : List Placement) (out : Plan) : Prop :=
  ∀ pool ∈ out.pools, ∀ b ∈ pool.backends, ∀ s ∈ served server placements,
    s.poolName = pool.name → s.port.host.isSome → b ∈ s.backends placements →
      IsBound placements s.placement.image s.port.container b

/-- The server itself binds the host port of what it serves. -/
theorem isBound_own {server : String} {placements : List Placement} {s : Served}
    (hs : s ∈ served server placements) {host : String} (hhost : s.port.host = some host) :
    IsBound placements s.placement.image s.port.container ⟨s.placement.hostAddress, host⟩ := by
  obtain ⟨hplacement, -, hport, -, -⟩ := mem_served.mp hs
  exact ⟨s.placement, hplacement, rfl, rfl, s.port, hport, rfl,
    (bound?_of_mem_served hs).trans hhost⟩

/-- Nothing but the ports of the other servers decides whether backends are bound. -/
theorem backendsBound_iff {options : PlanOptions} {server : String} {placements : List Placement}
    {out : Plan} (hplan : plan options server placements = .ok out) :
    BackendsBound server placements out ↔
      ∀ s ∈ served server placements,
        (∃ key, (firstClaimant? (served server placements) key).map (·.poolName) =
          some s.poolName) →
        ∀ host, s.port.host = some host →
          ∀ p ∈ placements, p.image = s.placement.image →
            p.hostAddress ≠ s.placement.hostAddress →
              ∃ q ∈ placements, q.image = p.image ∧ q.hostAddress = p.hostAddress ∧
                ∃ port ∈ q.ports, port.container = s.port.container ∧
                  port.bound? = some host := by
  obtain ⟨-, rfl⟩ := plan_eq_ok_iff.mp hplan
  constructor
  · intro hbound s hs hkey host hhost p hp himage _
    obtain ⟨pool, hpool, hname⟩ := (exists_mem_pools_iff options server placements _).mpr hkey
    have hb : ⟨p.hostAddress, host⟩ ∈ s.backends placements :=
      (Served.mem_backends_of_host hhost).mpr ⟨p, hp, himage, rfl⟩
    have hmem : ⟨p.hostAddress, host⟩ ∈ pool.backends :=
      (mem_backends_of_mem_pools _ _ _ hpool).mpr ⟨s, hs, hname.symm, hb⟩
    rw [himage]
    exact hbound pool hpool _ hmem s hs hname.symm (by rw [hhost, Option.isSome_some]) hb
  · intro hothers pool hpool b _ s hs hname hsome hb
    have hkey := (exists_mem_pools_iff options server placements _).mp ⟨pool, hpool, hname.symm⟩
    obtain ⟨host, hhost⟩ := Option.isSome_iff_exists.mp hsome
    obtain ⟨p, hp, himage, rfl⟩ := (Served.mem_backends_of_host hhost).mp hb
    by_cases hown : p.hostAddress = s.placement.hostAddress
    · rw [hown]
      exact isBound_own hs hhost
    · rw [← himage]
      exact hothers s hs hkey host hhost p hp himage hown

/-- One image on two servers that bind different host ports for it. -/
def movedPort : List Placement :=
  [⟨"web-1", some "10.0.0.1", "api", [⟨some "80", some "4000", "8080", false, []⟩]⟩,
    ⟨"web-2", some "10.0.0.2", "api", [⟨some "80", some "5000", "8080", false, []⟩]⟩]

def movedPortPlan : Plan :=
  ⟨"web-1", [⟨"api-8080", .leastConn, [⟨"10.0.0.1", "4000"⟩, ⟨"10.0.0.2", "4000"⟩]⟩],
    [⟨"_", "80", [⟨"/", "api-8080"⟩]⟩]⟩

/-- The second server is asked at the host port of the first. -/
theorem not_backendsBound_movedPort :
    plan ⟨.leastConn, false⟩ "web-1" movedPort = .ok movedPortPlan ∧
      ¬BackendsBound "web-1" movedPort movedPortPlan := by
  have hplan : plan ⟨.leastConn, false⟩ "web-1" movedPort = .ok movedPortPlan := rfl
  refine ⟨hplan, fun hbound ↦ ?_⟩
  have hothers := (backendsBound_iff hplan).mp hbound
  have hserved : served "web-1" movedPort =
      [⟨⟨"web-1", some "10.0.0.1", "api", [⟨some "80", some "4000", "8080", false, []⟩]⟩,
        ⟨some "80", some "4000", "8080", false, []⟩, "80"⟩] := rfl
  rw [hserved] at hothers
  have hmissing := hothers _ (.head _) ⟨("_", "80", "/"), rfl⟩ "4000" rfl _ (.tail _ (.head _)) rfl
    (by decide)
  exact absurd hmissing (by decide)

end ClusterPlan.Proxy.Plan
