import ClusterPlan.Proofs.Proxy.Routes

/-!
# Plans are well formed

A reverse proxy refuses a configuration in which two servers answer the same domain and port, a
server has no location or the same one twice, or a location leads to a pool that is not there. No
plan is of this kind, and none has a pool that nothing leads to or that has no backend. Routes that
were dropped and pools that several ports share make no difference to it.
-/

namespace ClusterPlan.Proxy

/-- What the configuration of a reverse proxy has to be like for it to be loaded. -/
structure Plan.WellFormed (plan : Plan) : Prop where
  listeners_nodup : (plan.listeners.map fun l ↦ (l.domain, l.port)).Nodup
  locations_ne_nil : ∀ l ∈ plan.listeners, l.locations ≠ []
  paths_nodup : ∀ l ∈ plan.listeners, (l.locations.map (·.path)).Nodup
  pools_nodup : (plan.pools.map (·.name)).Nodup
  exists_pool : ∀ l ∈ plan.listeners, ∀ location ∈ l.locations,
    ∃ pool ∈ plan.pools, pool.name = location.pool
  exists_location : ∀ pool ∈ plan.pools,
    ∃ l ∈ plan.listeners, ∃ location ∈ l.locations, location.pool = pool.name
  backends_ne_nil : ∀ pool ∈ plan.pools, pool.backends ≠ []
  backends_nodup : ∀ pool ∈ plan.pools, pool.backends.Nodup

namespace Plan

/-! ### Listeners -/

/-- The domains and ports of listeners. -/
def sites (listeners : List Listener) : List (String × String) :=
  listeners.map fun l ↦ (l.domain, l.port)

theorem mem_sites_addLocation {c : Claim} {listeners : List Listener} {site : String × String} :
    site ∈ sites (addLocation c listeners) ↔
      site = (c.domain, c.port) ∨ site ∈ sites listeners := by
  induction listeners with
  | nil => simp [addLocation, sites]
  | cons l rest ih =>
    rw [addLocation]
    split
    next hsame =>
      obtain ⟨hdomain, hport⟩ := hsame
      simp [sites, hdomain, hport]
    next =>
      simp only [sites, List.map_cons, List.mem_cons] at ih ⊢
      rw [ih]
      exact or_left_comm

/-- Listeners of different sites, each with a location. -/
structure Listening (listeners : List Listener) : Prop where
  sites_nodup : (sites listeners).Nodup
  locations_ne_nil : ∀ l ∈ listeners, l.locations ≠ []

theorem Listening.addLocation {listeners : List Listener} (h : Listening listeners) (c : Claim) :
    Listening (addLocation c listeners) := by
  induction listeners with
  | nil => exact ⟨by simp [Plan.addLocation, sites], by simp [Plan.addLocation]⟩
  | cons l rest ih =>
    obtain ⟨hfresh, hrest⟩ := List.nodup_cons.mp h.sites_nodup
    have htail : Listening rest :=
      ⟨hrest, fun l hl ↦ h.locations_ne_nil l (List.mem_cons_of_mem _ hl)⟩
    rw [Plan.addLocation]
    split
    next =>
      refine ⟨List.nodup_cons.mpr ⟨hfresh, hrest⟩, ?_⟩
      rintro l (_ | ⟨_, hl⟩)
      · simp
      · exact htail.locations_ne_nil l hl
    next hother =>
      have hnew : (l.domain, l.port) ∉ sites (Plan.addLocation c rest) := by
        rw [mem_sites_addLocation]
        rintro (hsame | hsame)
        · exact hother (Prod.mk.inj hsame)
        · exact hfresh hsame
      refine ⟨List.nodup_cons.mpr ⟨hnew, (ih htail).sites_nodup⟩, ?_⟩
      rintro l (_ | ⟨_, hl⟩)
      · exact h.locations_ne_nil l (.head _)
      · exact (ih htail).locations_ne_nil l hl

theorem listening_listenersOf (claims : List Claim) : Listening (listenersOf claims) := by
  have hfold (listeners : List Listener) (h : Listening listeners) :
      Listening (claims.foldl (fun ls c ↦ addLocation c ls) listeners) := by
    induction claims generalizing listeners with
    | nil => exact h
    | cons c rest ih => exact ih _ (h.addLocation c)
  exact hfold [] ⟨List.nodup_nil, by simp⟩

/-- Where no key is answered twice, no listener has a path twice. -/
theorem nodup_paths_of_routes {listeners : List Listener}
    (h : ((routes listeners).map (·.1)).Nodup) {l : Listener} (hl : l ∈ listeners) :
    (l.locations.map (·.path)).Nodup := by
  rw [routes, List.map_flatMap] at h
  have hkeys := (List.nodup_flatMap.mp h).1 l hl
  rw [List.map_map] at hkeys
  have hpaths : ((l.locations.map (·.path)).map fun path ↦ (l.domain, l.port, path)).Nodup := by
    rw [List.map_map]
    exact hkeys
  exact hpaths.of_map

/-! ### Pools -/

section OfServed

variable (options : PlanOptions) (server : String) (placements : List Placement)
  (ports : List Served)

theorem nodup_pools_ofServed :
    ((ofServed options server placements ports).pools.map (·.name)).Nodup := by
  simp only [ofServed, List.map_map]
  have hname : (fun pool : Pool ↦ pool.name) ∘ poolOf options placements ports = id := by
    funext name
    rfl
  rw [hname, List.map_id]
  exact (nodup_poolNames ports).filter _

/-- What a location leads to is a pool of the plan, because the claim behind it was made by a port
of that pool. -/
theorem exists_pool_of_location {l : Listener}
    (hl : l ∈ (ofServed options server placements ports).listeners) {location : Location}
    (hlocation : location ∈ l.locations) :
    ∃ pool ∈ (ofServed options server placements ports).pools, pool.name = location.pool := by
  have hroute : ((l.domain, l.port, location.path), location.pool) ∈
      routes (ofServed options server placements ports).listeners :=
    mem_routes.mpr ⟨l, hl, location, hlocation, rfl, rfl⟩
  apply (exists_mem_pools_iff options server placements ports).mpr
  exact ⟨_, (mem_routes_ofServed options server placements ports).mp hroute⟩

theorem nodup_backends_of_mem_pools {pool : Pool}
    (hpool : pool ∈ (ofServed options server placements ports).pools) : pool.backends.Nodup := by
  obtain ⟨-, -, heq⟩ := (mem_pools_ofServed options placements ports).mp hpool
  rw [heq]
  exact nodup_backends_poolOf options placements ports _

end OfServed

theorem backends_ne_nil_of_mem_pools {options : PlanOptions} {server : String}
    {placements : List Placement} {pool : Pool}
    (hpool : pool ∈ (ofServed options server placements (served server placements)).pools) :
    pool.backends ≠ [] := by
  obtain ⟨⟨s, hs, hname⟩, -, -⟩ := (mem_pools_ofServed _ _ _).mp hpool
  have hown := Served.backend_mem_backends hs
  exact List.ne_nil_of_mem ((mem_backends_of_mem_pools _ _ _ hpool).mpr ⟨s, hs, hname, hown⟩)

/-- Whatever was placed, and whether or not routes were overridden. -/
theorem wellFormed_of_plan {options : PlanOptions} {server : String}
    {placements : List Placement} {out : Plan}
    (h : plan options server placements = .ok out) : out.WellFormed := by
  obtain ⟨-, rfl⟩ := plan_eq_ok_iff.mp h
  have hlistening := listening_listenersOf
    (held [] ((served server placements).flatMap (·.claims)))
  exact {
    listeners_nodup := hlistening.sites_nodup
    locations_ne_nil := hlistening.locations_ne_nil
    paths_nodup := fun _ ↦ nodup_paths_of_routes (nodup_keys_routes options server _ _)
    pools_nodup := nodup_pools_ofServed options server _ _
    exists_pool := fun _ hl _ ↦ exists_pool_of_location options server _ _ hl
    exists_location := fun _ hpool ↦ isRouted_iff.mp ((mem_pools_ofServed _ _ _).mp hpool).2.1
    backends_ne_nil := fun _ ↦ backends_ne_nil_of_mem_pools
    backends_nodup := fun _ ↦ nodup_backends_of_mem_pools options server _ _ }

def sharedPathPlan : Plan :=
  ⟨"web-1",
    [⟨"api-8080", .leastConn, [⟨"10.0.0.1", "3000"⟩, ⟨"web-2", "3000"⟩]⟩,
      ⟨"shop-4000", .ipHash, [⟨"shop", "4000"⟩]⟩],
    [⟨"example.com", "80", [⟨"/api", "api-8080"⟩, ⟨"/shop", "shop-4000"⟩]⟩]⟩

theorem wellFormed_sharedPathPlan :
    plan ⟨.leastConn, true⟩ "web-1" sharedPath = .ok sharedPathPlan ∧
      sharedPathPlan.WellFormed := by
  have hplan : plan ⟨.leastConn, true⟩ "web-1" sharedPath = .ok sharedPathPlan := rfl
  exact ⟨hplan, wellFormed_of_plan hplan⟩

end Plan

end ClusterPlan.Proxy
