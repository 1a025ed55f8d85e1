import ClusterPlan.Proofs.Proxy.Served
import ClusterPlan.Proofs.Sequence

/-!
# Which route leads to which pool

Several ports of a server may claim the same domain, port and path. The listeners of a plan answer
each claim that is made once, and send it to the pool of the port that makes it first, in the order
of placements and ports. Only claims of different pools are in conflict; where a plan fails, it
fails for no other reason, and leave to override later claims changes no plan that needs none.
-/

namespace ClusterPlan.Proxy.Plan

/-! ### Claims that hold -/

theorem holder?_append (before after : List Claim) (key : Key) :
    holder? (before ++ after) key = (holder? before key).or (holder? after key) :=
  List.find?_append

theorem key_of_holder? {claims : List Claim} {key : Key} {c : Claim}
    (h : holder? claims key = some c) : c.key = key := by
  simpa using List.find?_some h

theorem mem_of_holder? {claims : List Claim} {key : Key} {c : Claim}
    (h : holder? claims key = some c) : c ∈ claims :=
  List.mem_of_find?_eq_some h

theorem exists_holder? {claims : List Claim} {c : Claim} (hc : c ∈ claims) :
    ∃ holder, holder? claims c.key = some holder := by
  apply Option.isSome_iff_exists.mp
  exact List.find?_isSome.mpr ⟨c, hc, by simp⟩

theorem holder?_eq_none_iff {claims : List Claim} {key : Key} :
    holder? claims key = none ↔ key ∉ claims.map (·.key) := by
  simp [holder?]

/-- A claim of a key that is held already changes no holder. -/
theorem holder?_append_cons_of_isSome {kept rest : List Claim} {c : Claim}
    (h : (holder? kept c.key).isSome) (key : Key) :
    holder? (kept ++ c :: rest) key = holder? (kept ++ rest) key := by
  rw [holder?_append, holder?_append]
  by_cases hkey : c.key = key
  · obtain ⟨holder, hholder⟩ := Option.isSome_iff_exists.mp h
    rw [← hkey, hholder, Option.some_or, Option.some_or]
  · have hskip : holder? (c :: rest) key = holder? rest key :=
      List.find?_cons_of_neg (by simpa using hkey)
    rw [hskip]

/-- The claims that are kept have the holders of all claims. -/
theorem holder?_held (kept claims : List Claim) (key : Key) :
    holder? (held kept claims) key = holder? (kept ++ claims) key := by
  induction claims generalizing kept with
  | nil => rw [held, List.append_nil]
  | cons c rest ih =>
    rw [held, ih]
    split
    next hkept => exact (holder?_append_cons_of_isSome hkept key).symm
    next => rw [List.append_assoc, List.singleton_append]

theorem nodup_keys_held {kept : List Claim} (h : (kept.map (·.key)).Nodup)
    (claims : List Claim) : ((held kept claims).map (·.key)).Nodup := by
  induction claims generalizing kept with
  | nil => exact h
  | cons c rest ih =>
    rw [held]
    split
    next => exact ih h
    next hkept =>
      have hfresh : c.key ∉ kept.map (·.key) :=
        holder?_eq_none_iff.mp (Option.not_isSome_iff_eq_none.mp hkept)
      apply ih
      rw [List.map_append]
      exact List.concat_eq_append ▸ h.concat hfresh

theorem holder?_eq_some_of_mem {claims : List Claim} (h : (claims.map (·.key)).Nodup) {c : Claim}
    (hc : c ∈ claims) : holder? claims c.key = some c :=
  (find?_eq_some_iff_of_nodup h).mpr ⟨hc, rfl⟩

theorem mem_held_iff {claims : List Claim} {c : Claim} :
    c ∈ held [] claims ↔ holder? claims c.key = some c := by
  have hholder : holder? (held [] claims) c.key = holder? claims c.key :=
    holder?_held [] claims c.key
  have hnodup : ((held [] claims).map (·.key)).Nodup := nodup_keys_held (by simp) claims
  rw [← hholder]
  constructor
  · exact holder?_eq_some_of_mem hnodup
  · exact mem_of_holder?

/-- There is no conflict exactly when all claims of a key are made by one pool. -/
theorem conflict?_eq_none_iff {server : String} {claims : List Claim} :
    conflict? server claims = none ↔
      ∀ c ∈ claims, ∀ d ∈ claims, c.key = d.key → c.pool = d.pool := by
  unfold conflict?
  rw [List.findSome?_eq_none_iff]
  constructor
  · intro h c hc d hd hkey
    obtain ⟨holder, hholder⟩ := exists_holder? hc
    have hc := h c hc
    have hd := h d hd
    rw [hholder] at hc
    rw [← hkey, hholder] at hd
    have hcpool : holder.pool = c.pool := by simpa using hc
    have hdpool : holder.pool = d.pool := by simpa using hd
    exact hcpool.symm.trans hdpool
  · intro h c hc
    obtain ⟨holder, hholder⟩ := exists_holder? hc
    have hpool := h holder (mem_of_holder? hholder) c hc (key_of_holder? hholder)
    rw [hholder]
    exact if_pos hpool

/-! ### Listeners -/

/-- All that listeners answer: each key with the name of the pool that it is sent to. -/
def routes (listeners : List Listener) : List (Key × String) :=
  listeners.flatMap fun l ↦ l.locations.map fun location ↦
    ((l.domain, l.port, location.path), location.pool)

@[simp]
theorem routes_cons (l : Listener) (rest : List Listener) :
    routes (l :: rest) =
      (l.locations.map fun location ↦ ((l.domain, l.port, location.path), location.pool)) ++
        routes rest := rfl

theorem mem_routes {listeners : List Listener} {key : Key} {pool : String} :
    (key, pool) ∈ routes listeners ↔
      ∃ l ∈ listeners, ∃ location ∈ l.locations,
        key = (l.domain, l.port, location.path) ∧ pool = location.pool := by
  simp [routes, eq_comm]

/-- One claim adds one route, under whichever listener. -/
theorem routes_addLocation (c : Claim) (listeners : List Listener) :
    (routes (addLocation c listeners)).Perm ((c.key, c.pool) :: routes listeners) := by
  induction listeners with
  | nil => exact .refl _
  | cons l rest ih =>
    rw [addLocation]
    split
    next hsame =>
      obtain ⟨hdomain, hport⟩ := hsame
      rw [routes_cons, routes_cons, List.map_append, List.append_assoc, hdomain, hport]
      exact List.perm_middle
    next =>
      rw [routes_cons, routes_cons]
      exact (ih.append_left _).trans List.perm_middle

theorem routes_listenersOf (claims : List Claim) :
    (routes (listenersOf claims)).Perm (claims.map fun c ↦ (c.key, c.pool)) := by
  have hfold (listeners : List Listener) :
      (routes (claims.foldl (fun ls c ↦ addLocation c ls) listeners)).Perm
        (routes listeners ++ claims.map fun c ↦ (c.key, c.pool)) := by
    induction claims generalizing listeners with
    | nil => simp
    | cons c rest ih =>
      rw [List.foldl_cons, List.map_cons]
      refine (ih _).trans (((routes_addLocation c listeners).append_right _).trans ?_)
      exact List.perm_middle.symm
  exact hfold []

/-! ### Routes of a plan -/

/-- The first port, in the order given, that claims a key. -/
def firstClaimant? (ports : List Served) (key : Key) : Option Served :=
  ports.find? fun s ↦ s.Claims key

section FirstClaimant

variable {ports : List Served} {s : Served} {key : Key}

theorem mem_of_firstClaimant? (h : firstClaimant? ports key = some s) : s ∈ ports :=
  List.mem_of_find?_eq_some h

theorem claims_of_firstClaimant? (h : firstClaimant? ports key = some s) : s.Claims key := by
  simpa using List.find?_some h

theorem exists_firstClaimant?_iff :
    (∃ first, firstClaimant? ports key = some first) ↔ ∃ s ∈ ports, s.Claims key := by
  rw [← Option.isSome_iff_exists, firstClaimant?, List.find?_isSome]
  simp

end FirstClaimant

/-- The claim that holds a key is one of the first port that makes it. -/
theorem holder?_flatMap_claims (ports : List Served) (key : Key) :
    (holder? (ports.flatMap (·.claims)) key).map (·.pool) =
      (firstClaimant? ports key).map (·.poolName) := by
  induction ports with
  | nil => rfl
  | cons s rest ih =>
    rw [List.flatMap_cons, holder?_append]
    by_cases hclaims : s.Claims key
    · obtain ⟨c, hc, rfl⟩ := Served.claims_iff.mpr hclaims
      obtain ⟨holder, hholder⟩ := exists_holder? hc
      have hfirst : firstClaimant? (s :: rest) c.key = some s :=
        List.find?_cons_of_pos (by simpa using hclaims)
      rw [hholder, hfirst, Option.some_or, Option.map_some, Option.map_some,
        Served.pool_of_mem_claims (mem_of_holder? hholder)]
    · have hnone : holder? s.claims key = none := by
        rw [holder?_eq_none_iff]
        intro hkey
        obtain ⟨c, hc, hkey⟩ := List.mem_map.mp hkey
        exact hclaims (Served.claims_iff.mp ⟨c, hc, hkey⟩)
      have hskip : firstClaimant? (s :: rest) key = firstClaimant? rest key :=
        List.find?_cons_of_neg (by simpa using hclaims)
      rw [hnone, Option.none_or, hskip, ih]

theorem mem_flatMap_claims {ports : List Served} {c : Claim}
    (hc : c ∈ ports.flatMap (·.claims)) :
    ∃ s ∈ ports, s.Claims c.key ∧ c.pool = s.poolName := by
  obtain ⟨s, hs, hc⟩ := List.mem_flatMap.mp hc
  exact ⟨s, hs, Served.claims_iff.mp ⟨c, hc, rfl⟩, Served.pool_of_mem_claims hc⟩

theorem exists_mem_flatMap_claims {ports : List Served} {s : Served} {key : Key} (hs : s ∈ ports)
    (h : s.Claims key) : ∃ c ∈ ports.flatMap (·.claims), c.key = key ∧ c.pool = s.poolName := by
  obtain ⟨c, hc, hkey⟩ := Served.claims_iff.mpr h
  exact ⟨c, List.mem_flatMap.mpr ⟨s, hs, hc⟩, hkey, Served.pool_of_mem_claims hc⟩

/-- Claims are in conflict when two ports of different pools make the same one. -/
theorem conflict?_claims_ne_none_iff {server : String} {ports : List Served} :
    conflict? server (ports.flatMap (·.claims)) ≠ none ↔
      ∃ s ∈ ports, ∃ t ∈ ports, s.poolName ≠ t.poolName ∧ ∃ key, s.Claims key ∧ t.Claims key := by
  rw [Ne, conflict?_eq_none_iff]
  push Not
  constructor
  · rintro ⟨c, hc, d, hd, hkey, hpool⟩
    obtain ⟨s, hs, hclaims, hspool⟩ := mem_flatMap_claims hc
    obtain ⟨t, ht, htclaims, htpool⟩ := mem_flatMap_claims hd
    rw [hspool, htpool] at hpool
    rw [← hkey] at htclaims
    exact ⟨s, hs, t, ht, hpool, c.key, hclaims, htclaims⟩
  · rintro ⟨s, hs, t, ht, hpool, key, hclaims, htclaims⟩
    obtain ⟨c, hc, hckey, hcpool⟩ := exists_mem_flatMap_claims hs hclaims
    obtain ⟨d, hd, hdkey, hdpool⟩ := exists_mem_flatMap_claims ht htclaims
    rw [← hcpool, ← hdpool] at hpool
    exact ⟨c, hc, d, hd, hckey.trans hdkey.symm, hpool⟩

section OfServed

variable (options : PlanOptions) (server : String) (placements : List Placement)
  (ports : List Served)

theorem routes_ofServed :
    (routes (ofServed options server placements ports).listeners).Perm
      ((held [] (ports.flatMap (·.claims))).map fun c ↦ (c.key, c.pool)) :=
  routes_listenersOf _

theorem nodup_keys_routes :
    ((routes (ofServed options server placements ports).listeners).map (·.1)).Nodup := by
  have hkeys := (routes_ofServed options server placements ports).map (·.1)
  rw [List.map_map] at hkeys
  exact hkeys.nodup_iff.mpr (nodup_keys_held (by simp) _)

theorem mem_routes_ofServed {key : Key} {pool : String} :
    (key, pool) ∈ routes (ofServed options server placements ports).listeners ↔
      (firstClaimant? ports key).map (·.poolName) = some pool := by
  rw [(routes_ofServed options server placements ports).mem_iff, ← holder?_flatMap_claims,
    Option.map_eq_some_iff, List.mem_map]
  constructor
  · rintro ⟨c, hc, hroute⟩
    obtain ⟨rfl, rfl⟩ := Prod.mk.inj hroute
    exact ⟨c, mem_held_iff.mp hc, rfl⟩
  · rintro ⟨c, hc, rfl⟩
    obtain rfl := key_of_holder? hc
    exact ⟨c, mem_held_iff.mpr hc, rfl⟩

theorem mem_keys_routes_ofServed {key : Key} :
    key ∈ (routes (ofServed options server placements ports).listeners).map (·.1) ↔
      ∃ s ∈ ports, s.Claims key := by
  rw [← exists_firstClaimant?_iff, List.mem_map]
  constructor
  · rintro ⟨⟨key, pool⟩, hroute, rfl⟩
    obtain ⟨s, hs, -⟩ := Option.map_eq_some_iff.mp
      ((mem_routes_ofServed options server placements ports).mp hroute)
    exact ⟨s, hs⟩
  · rintro ⟨s, hs⟩
    refine ⟨(key, s.poolName), (mem_routes_ofServed options server placements ports).mpr ?_, rfl⟩
    rw [hs, Option.map_some]

/-- A pool is in the plan when it is sent to from somewhere: one of its ports is the first that
claims a key. -/
theorem exists_mem_pools_iff {name : String} :
    (∃ pool ∈ (ofServed options server placements ports).pools, pool.name = name) ↔
      ∃ key, (firstClaimant? ports key).map (·.poolName) = some name := by
  constructor
  · rintro ⟨pool, hpool, rfl⟩
    have hrouted := ((mem_pools_ofServed options placements ports).mp hpool).2.1
    obtain ⟨l, hl, location, hlocation, hname⟩ := isRouted_iff.mp hrouted
    have hroute : ((l.domain, l.port, location.path), pool.name) ∈
        routes (ofServed options server placements ports).listeners :=
      mem_routes.mpr ⟨l, hl, location, hlocation, rfl, hname.symm⟩
    exact ⟨_, (mem_routes_ofServed options server placements ports).mp hroute⟩
  · intro ⟨key, hkey⟩
    have hroute := (mem_routes_ofServed options server placements ports).mpr hkey
    obtain ⟨l, hl, location, hlocation, -, hname⟩ := mem_routes.mp hroute
    have hrouted : isRouted (ofServed options server placements ports).listeners name = true :=
      isRouted_iff.mpr ⟨l, hl, location, hlocation, hname.symm⟩
    obtain ⟨s, hs, hpool⟩ := Option.map_eq_some_iff.mp hkey
    refine ⟨poolOf options placements ports name, ?_, rfl⟩
    exact (mem_pools_ofServed options placements ports).mpr
      ⟨⟨s, mem_of_firstClaimant? hs, hpool⟩, hrouted, rfl⟩

end OfServed

/-- Routes go to the first port that claims them. With leave to override a plan always succeeds,
and it is the plan that is made without leave wherever there is one; without leave it fails exactly
where two ports with different pools make the same claim. -/
theorem plan_settles_routes (strategy : Strategy) (server : String)
    (placements : List Placement) :
    (∃ out, plan ⟨strategy, true⟩ server placements = .ok out) ∧
    ((∃ conflict, plan ⟨strategy, false⟩ server placements = .error conflict) ↔
      ∃ s ∈ served server placements, ∃ t ∈ served server placements,
        s.poolName ≠ t.poolName ∧ ∃ key, s.Claims key ∧ t.Claims key) ∧
    (∀ out, plan ⟨strategy, false⟩ server placements = .ok out →
      plan ⟨strategy, true⟩ server placements = .ok out) ∧
    ∀ allowOverride out, plan ⟨strategy, allowOverride⟩ server placements = .ok out →
      ((routes out.listeners).map (·.1)).Nodup ∧
      (∀ key, key ∈ (routes out.listeners).map (·.1) ↔
        ∃ s ∈ served server placements, s.Claims key) ∧
      ∀ key pool, (key, pool) ∈ routes out.listeners ↔
        (firstClaimant? (served server placements) key).map (·.poolName) = some pool := by
  refine ⟨⟨_, plan_eq_ok_iff.mpr ⟨.inl rfl, rfl⟩⟩, ?_, ?_, ?_⟩
  · rw [exists_plan_eq_error_iff, conflict?_claims_ne_none_iff]
    exact and_iff_right rfl
  · intro out h
    obtain ⟨-, hout⟩ := plan_eq_ok_iff.mp h
    exact plan_eq_ok_iff.mpr ⟨.inl rfl, hout⟩
  · intro allowOverride out h
    obtain ⟨-, rfl⟩ := plan_eq_ok_iff.mp h
    exact ⟨nodup_keys_routes _ server placements _,
      fun key ↦ mem_keys_routes_ofServed _ server placements _,
      fun key pool ↦ mem_routes_ofServed _ server placements _⟩

def apiPlacement (server : String) (address : Option String) : Placement :=
  ⟨server, address, "api",
    [⟨some "80", some "3000", "8080", false, [⟨"example.com", "/api", none⟩]⟩]⟩

def shopPlacement : Placement :=
  ⟨"web-1", some "10.0.0.1", "shop",
    [⟨some "80", none, "4000", false,
      [⟨"example.com", "/api", some .ipHash⟩, ⟨"example.com", "/shop", none⟩]⟩]⟩

/-- Two images of one server claim one path; the second has another path of its own. -/
def sharedPath : List Placement :=
  [apiPlacement "web-1" (some "10.0.0.1"), shopPlacement, apiPlacement "web-2" none]

theorem plan_settles_shared_path :
    (∃ conflict, plan ⟨.leastConn, false⟩ "web-1" sharedPath = .error conflict) ∧
      ∃ out, plan ⟨.leastConn, true⟩ "web-1" sharedPath = .ok out ∧
        (("example.com", "80", "/api"), "api-8080") ∈ routes out.listeners ∧
        (("example.com", "80", "/shop"), "shop-4000") ∈ routes out.listeners := by
  obtain ⟨⟨out, hout⟩, hfails, -, hroutes⟩ :=
    plan_settles_routes .leastConn "web-1" sharedPath
  obtain ⟨-, -, hroute⟩ := hroutes true out hout
  refine ⟨hfails.mpr ?_, out, hout, (hroute _ _).mpr rfl, (hroute _ _).mpr rfl⟩
  have hserved : served "web-1" sharedPath =
      [⟨apiPlacement "web-1" (some "10.0.0.1"), _, "80"⟩, ⟨shopPlacement, _, "80"⟩] := rfl
  rw [hserved]
  exact ⟨_, .head _, _, .tail _ (.head _), by decide, ("example.com", "80", "/api"),
    by decide, by decide⟩

end ClusterPlan.Proxy.Plan
