import ClusterPlan.Proofs.Proxy.Port
import ClusterPlan.Proofs.Proxy.WellFormed

/-!
# The ports that a proxy listens on

The ports of the listeners of a plan, each of them once and in the order of their numbers. They are
the proxy ports of what is served, and there are none where the plan has no pool.
-/

namespace ClusterPlan.Proxy.Plan

/-! ### Lists without repeats -/

theorem mem_dropRepeats {a : String} {ports : List String} : a ∈ dropRepeats ports ↔ a ∈ ports := by
  fun_induction dropRepeats ports with
  | case1 b rest ih =>
    rw [ih]
    simp
  | case2 b c rest hne ih => rw [List.mem_cons, ih, ← List.mem_cons]
  | case3 short => rfl

/-- Of a sorted list there remains one of each number, if the same number is the same text. -/
theorem pairwise_dropRepeats {number : String → Nat} {ports : List String}
    (hsorted : ports.Pairwise fun a b ↦ number a ≤ number b)
    (hinj : ∀ a ∈ ports, ∀ b ∈ ports, number a = number b → a = b) :
    (dropRepeats ports).Pairwise fun a b ↦ number a < number b := by
  fun_induction dropRepeats ports with
  | case1 b rest ih =>
    exact ih hsorted.of_cons fun a ha c hc ↦
      hinj a (List.mem_cons_of_mem b ha) c (List.mem_cons_of_mem b hc)
  | case2 b c rest hne ih =>
    obtain ⟨hfirst, hrest⟩ := List.pairwise_cons.mp hsorted
    refine List.pairwise_cons.mpr ⟨fun a ha ↦ ?_, ih hrest fun a ha d hd ↦
      hinj a (List.mem_cons_of_mem b ha) d (List.mem_cons_of_mem b hd)⟩
    have hnext : number b < number c := by
      refine Nat.lt_of_le_of_ne (hfirst c (by simp)) fun hsame ↦ hne ?_
      exact hinj b (by simp) c (by simp) hsame
    rcases List.mem_cons.mp (mem_dropRepeats.mp ha) with rfl | ha
    · exact hnext
    · exact Nat.lt_of_lt_of_le hnext (List.rel_of_pairwise_cons hrest ha)
  | case3 short hshort =>
    match short, hshort with
    | [], _ => exact .nil
    | [a], _ => exact List.pairwise_singleton _ a
    | a :: b :: rest, hshort => exact absurd rfl (hshort a b rest)

/-! ### Ports of listeners -/

theorem mem_listenPorts {plan : Plan} {port : String} :
    port ∈ plan.listenPorts ↔ ∃ l ∈ plan.listeners, l.port = port := by
  rw [listenPorts, mem_dropRepeats, List.mem_mergeSort, List.mem_map]

theorem mem_map_listenPorts {β : Type} {f : String → β} {plan : Plan} {b : β} :
    b ∈ plan.listenPorts.map f ↔ ∃ l ∈ plan.listeners, f l.port = b := by
  rw [List.mem_map]
  constructor
  · rintro ⟨port, hport, hb⟩
    obtain ⟨l, hl, rfl⟩ := mem_listenPorts.mp hport
    exact ⟨l, hl, hb⟩
  · rintro ⟨l, hl, hb⟩
    exact ⟨l.port, mem_listenPorts.mpr ⟨l, hl, rfl⟩, hb⟩

/-- Ports in plain decimal digits are listed once, in the order of their numbers. -/
theorem pairwise_listenPorts {plan : Plan} (h : ∀ l ∈ plan.listeners, Port.IsNumber l.port) :
    plan.listenPorts.Pairwise fun a b ↦ portNumber a < portNumber b := by
  apply pairwise_dropRepeats
  · have htrans (a b c : String) : decide (portNumber a ≤ portNumber b) →
        decide (portNumber b ≤ portNumber c) → decide (portNumber a ≤ portNumber c) := by
      simpa using Nat.le_trans
    have htotal (a b : String) :
        (decide (portNumber a ≤ portNumber b) || decide (portNumber b ≤ portNumber a)) = true := by
      simpa using Nat.le_total (portNumber a) (portNumber b)
    have hsorted := List.pairwise_mergeSort htrans htotal (plan.listeners.map (·.port))
    exact hsorted.imp of_decide_eq_true
  · intro a ha b hb hsame
    rw [List.mem_mergeSort] at ha hb
    obtain ⟨l, hl, rfl⟩ := List.mem_map.mp ha
    obtain ⟨l', hl', rfl⟩ := List.mem_map.mp hb
    obtain ⟨m, -, -, hm⟩ := (h l hl).exists_read
    obtain ⟨n, -, -, hn⟩ := (h l' hl').exists_read
    apply (h l hl).eq_of_read (h l' hl')
    rw [portNumber, portNumber, hm, hn, Option.getD_some, Option.getD_some] at hsame
    rw [hm, hn, hsame]

section OfServed

variable (options : PlanOptions) (server : String) (placements : List Placement)
  (ports : List Served)

theorem locations_ne_nil_of_mem_listeners {l : Listener}
    (hl : l ∈ (ofServed options server placements ports).listeners) : l.locations ≠ [] :=
  (listening_listenersOf _).locations_ne_nil l hl

/-- A listener is there because a port that is served claims its domain and port. -/
theorem exists_served_of_mem_listeners {l : Listener}
    (hl : l ∈ (ofServed options server placements ports).listeners) :
    ∃ s ∈ ports, s.proxyPort = l.port := by
  obtain ⟨location, hlocation⟩ := List.exists_mem_of_ne_nil _
    (locations_ne_nil_of_mem_listeners options server placements ports hl)
  have hroute : ((l.domain, l.port, location.path), location.pool) ∈
      routes (ofServed options server placements ports).listeners :=
    mem_routes.mpr ⟨l, hl, location, hlocation, rfl, rfl⟩
  obtain ⟨s, hs, hclaims⟩ := (mem_keys_routes_ofServed options server placements ports).mp
    (List.mem_map_of_mem hroute)
  refine ⟨s, hs, ?_⟩
  rcases hclaims with ⟨route, -, hkey⟩ | ⟨-, hkey⟩
  · exact (Prod.mk.inj (Prod.mk.inj hkey).2).1.symm
  · exact (Prod.mk.inj (Prod.mk.inj hkey).2).1.symm

/-- A plan without pools has no listeners either, because each of them would lead to one. -/
theorem listeners_eq_nil_of_isEmpty
    (h : (ofServed options server placements ports).isEmpty = true) :
    (ofServed options server placements ports).listeners = [] := by
  rw [List.eq_nil_iff_forall_not_mem]
  intro l hl
  obtain ⟨location, hlocation⟩ := List.exists_mem_of_ne_nil _
    (locations_ne_nil_of_mem_listeners options server placements ports hl)
  obtain ⟨pool, hpool, -⟩ := exists_pool_of_location options server placements ports hl hlocation
  rw [isEmpty, List.isEmpty_iff] at h
  rw [h] at hpool
  exact absurd hpool List.not_mem_nil

end OfServed

end ClusterPlan.Proxy.Plan
