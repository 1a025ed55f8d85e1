import ClusterPlan.Proofs.Proxy.Port
import ClusterPlan.Proxy.Plan
import Mathlib.Data.List.Nodup

/-!
# Served ports, their claims and their pools

What the parts of a plan are made of, stated by membership: the ports that the proxy of a server
serves, the domains and paths that they claim, and the pools that their backends are collected in.
A port that is served is reached by every placement of its image if it is bound on the server, and
by its own container alone if it is not.

Which claim holds where several ports make the same one is left open here.
-/

namespace ClusterPlan.Proxy

/-- Where a port of the placement is reached from the proxy of its own server. -/
def Placement.backend (p : Placement) (port : Port) : Backend :=
  match port.host with
  | none => ⟨p.image, port.container⟩
  | some host => ⟨p.hostAddress, host⟩

namespace Plan

/-- A domain, a port that the proxy listens on and a path. -/
abbrev Key := String × String × String

/-! ### Lists without repetition -/

theorem addNew_sublist {α : Type} [BEq α] (kept new : List α) :
    (addNew kept new).Sublist (kept ++ new) := by
  induction new generalizing kept with
  | nil => simp [addNew]
  | cons b rest ih =>
    rw [addNew]
    split
    next => exact (ih kept).trans ((List.sublist_cons_self b rest).append_left kept)
    next =>
      have hrest := ih (kept ++ [b])
      rwa [List.append_assoc, List.singleton_append] at hrest

section AddNew

variable {α : Type} [BEq α] [LawfulBEq α]

theorem mem_addNew {a : α} {kept new : List α} :
    a ∈ addNew kept new ↔ a ∈ kept ∨ a ∈ new := by
  induction new generalizing kept with
  | nil => simp [addNew]
  | cons b rest ih =>
    rw [addNew, ih]
    split
    next hkept =>
      have hb : b ∈ kept := List.contains_iff_mem.mp hkept
      constructor
      · rintro (h | h)
        · exact .inl h
        · exact .inr (List.mem_cons_of_mem b h)
      · rintro (h | h)
        · exact .inl h
        · rcases List.mem_cons.mp h with rfl | h
          · exact .inl hb
          · exact .inr h
    next => simp [or_assoc]

theorem nodup_addNew {kept : List α} (h : kept.Nodup) (new : List α) :
    (addNew kept new).Nodup := by
  induction new generalizing kept with
  | nil => exact h
  | cons b rest ih =>
    rw [addNew]
    split
    next => exact ih h
    next hkept =>
      have hb : b ∉ kept := fun hb ↦ hkept (List.contains_iff_mem.mpr hb)
      exact ih (List.concat_eq_append ▸ h.concat hb)

end AddNew

/-! ### Served ports -/

theorem mem_served {server : String} {placements : List Placement} {s : Served} :
    s ∈ served server placements ↔
      s.placement ∈ placements ∧ s.placement.server = server ∧ s.port ∈ s.placement.ports ∧
        s.port.isProxied ∧ s.port.proxyPort = some s.proxyPort := by
  simp only [served, List.mem_flatMap, List.mem_filter, beq_iff_eq, List.mem_filterMap]
  constructor
  · rintro ⟨placement, ⟨hplacement, hserver⟩, port, hport, hs⟩
    split at hs
    next hproxied =>
      obtain ⟨proxyPort, hproxy, rfl⟩ := Option.map_eq_some_iff.mp hs
      exact ⟨hplacement, hserver, hport, hproxied, hproxy⟩
    next => exact absurd hs (by simp)
  · rintro ⟨hplacement, hserver, hport, hproxied, hproxy⟩
    refine ⟨s.placement, ⟨hplacement, hserver⟩, s.port, hport, ?_⟩
    rw [if_pos hproxied, hproxy, Option.map_some]

theorem bound?_of_mem_served {server : String} {placements : List Placement} {s : Served}
    (hs : s ∈ served server placements) : s.port.bound? = s.port.host := by
  obtain ⟨-, -, -, hproxied, -⟩ := mem_served.mp hs
  exact Port.bound?_of_isProxied hproxied

/-! ### Claims -/

/-- A port claims a key for each of its routes. Without routes it claims the root of the domain
that stands for all others. -/
def Served.Claims (s : Served) (key : Key) : Prop :=
  (∃ route ∈ s.port.routes, key = (route.domain, s.proxyPort, route.path)) ∨
    s.port.routes = [] ∧ key = ("_", s.proxyPort, "/")

instance (s : Served) (key : Key) : Decidable (s.Claims key) :=
  inferInstanceAs (Decidable (_ ∨ _))

theorem Served.claims_iff {s : Served} {key : Key} :
    (∃ c ∈ s.claims, c.key = key) ↔ s.Claims key := by
  unfold Served.claims Served.answers Served.Claims
  cases hroutes : s.port.routes with
  | nil => simp [Claim.key, defaultDomain, eq_comm]
  | cons route rest => simp [Claim.key, eq_comm]

theorem Served.pool_of_mem_claims {s : Served} {c : Claim} (hc : c ∈ s.claims) :
    c.pool = s.poolName := by
  obtain ⟨answer, -, rfl⟩ := List.mem_map.mp hc
  rfl

/-! ### Backends -/

theorem Served.mem_backends_of_host {placements : List Placement} {s : Served} {host : String}
    (h : s.port.host = some host) {b : Backend} :
    b ∈ s.backends placements ↔
      ∃ p ∈ placements, p.image = s.placement.image ∧ b = ⟨p.hostAddress, host⟩ := by
  simp only [Served.backends, h, List.mem_map, List.mem_filter, beq_iff_eq]
  constructor
  · rintro ⟨p, ⟨hp, himage⟩, rfl⟩
    exact ⟨p, hp, himage, rfl⟩
  · rintro ⟨p, hp, himage, rfl⟩
    exact ⟨p, ⟨hp, himage⟩, rfl⟩

theorem Served.backend_mem_backends {server : String} {placements : List Placement} {s : Served}
    (hs : s ∈ served server placements) :
    s.placement.backend s.port ∈ s.backends placements := by
  cases hhost : s.port.host with
  | none => simp [Placement.backend, Served.backends, hhost]
  | some host =>
    rw [Served.mem_backends_of_host hhost, Placement.backend, hhost]
    exact ⟨s.placement, (mem_served.mp hs).1, rfl, rfl⟩

/-! ### Pools -/

theorem mem_poolNames {served : List Served} {name : String} :
    name ∈ poolNames served ↔ ∃ s ∈ served, s.poolName = name := by
  simp [poolNames, mem_addNew]

theorem nodup_poolNames (served : List Served) : (poolNames served).Nodup :=
  nodup_addNew List.nodup_nil _

section PoolOf

variable (options : PlanOptions) (placements : List Placement) (served : List Served)

@[simp]
theorem poolOf_name (name : String) : (poolOf options placements served name).name = name := rfl

theorem mem_backends_poolOf {name : String} {b : Backend} :
    b ∈ (poolOf options placements served name).backends ↔
      ∃ s ∈ served, s.poolName = name ∧ b ∈ s.backends placements := by
  simp [poolOf, mem_addNew, and_assoc]

theorem nodup_backends_poolOf (name : String) :
    (poolOf options placements served name).backends.Nodup :=
  nodup_addNew List.nodup_nil _

/-- The pools of a plan: one of each name that is routed, with all that its ports bring in. -/
theorem mem_pools_ofServed {server : String} {pool : Pool} :
    pool ∈ (ofServed options server placements served).pools ↔
      (∃ s ∈ served, s.poolName = pool.name) ∧
        isRouted (ofServed options server placements served).listeners pool.name = true ∧
        pool = poolOf options placements served pool.name := by
  simp only [ofServed, List.mem_map, List.mem_filter, mem_poolNames]
  constructor
  · rintro ⟨name, ⟨hname, hrouted⟩, rfl⟩
    exact ⟨hname, hrouted, rfl⟩
  · rintro ⟨hname, hrouted, hpool⟩
    exact ⟨pool.name, ⟨hname, hrouted⟩, hpool.symm⟩

theorem mem_backends_of_mem_pools {server : String} {pool : Pool}
    (hpool : pool ∈ (ofServed options server placements served).pools) {b : Backend} :
    b ∈ pool.backends ↔ ∃ s ∈ served, s.poolName = pool.name ∧ b ∈ s.backends placements := by
  obtain ⟨-, -, heq⟩ := (mem_pools_ofServed options placements served).mp hpool
  rw [heq, mem_backends_poolOf, poolOf_name]

theorem isRouted_iff {listeners : List Listener} {name : String} :
    isRouted listeners name = true ↔
      ∃ l ∈ listeners, ∃ location ∈ l.locations, location.pool = name := by
  simp [isRouted]

end PoolOf

/-! ### Plans -/

/-- All that can stop a plan is a conflict that may not be overridden. -/
theorem plan_eq_ok_iff {options : PlanOptions} {server : String} {placements : List Placement}
    {out : Plan} :
    plan options server placements = .ok out ↔
      (options.allowOverride = true ∨
        conflict? server ((served server placements).flatMap (·.claims)) = none) ∧
      out = ofServed options server placements (served server placements) := by
  unfold plan
  dsimp only
  generalize conflict? server ((served server placements).flatMap (·.claims)) = conflict
  cases options.allowOverride with
  | true => simp [eq_comm]
  | false =>
    cases conflict with
    | none => simp [eq_comm]
    | some conflict => simp

theorem exists_plan_eq_error_iff {options : PlanOptions} {server : String}
    {placements : List Placement} :
    (∃ conflict, plan options server placements = .error conflict) ↔
      options.allowOverride = false ∧
        conflict? server ((served server placements).flatMap (·.claims)) ≠ none := by
  unfold plan
  dsimp only
  generalize conflict? server ((served server placements).flatMap (·.claims)) = conflict
  cases options.allowOverride with
  | true => simp
  | false =>
    cases conflict with
    | none => simp
    | some conflict => simp

end Plan

end ClusterPlan.Proxy
