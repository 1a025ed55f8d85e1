import ClusterPlan.Proofs.Proxy.Resolved

/-!
# Routes that are assigned to ports

Every proxy declaration leaves its route with one port of the image, which has the container port,
the proxy port and the directness that are declared for the route. Routes are neither merged nor
lost on the way, so that two declarations of one route assign it twice.

That no routes are merged rests on declarations being attached by container port: a port is added
for a declaration only where no other port has its container port, and so none has its key.
-/

open scoped List

namespace ClusterPlan.Proxy

/-- A route with the port that answers for it, without the host port, which a declaration may
leave out. -/
structure Assignment where
  route : Route
  proxyPort : Option String
  container : String
  direct : Bool

/-- What the port is assigned. -/
def Port.assignments (p : Port) : List Assignment :=
  p.routes.map (⟨·, p.proxyPort, p.container, p.direct⟩)

def Declaration.assignment (d : Declaration) : Assignment :=
  ⟨d.route, d.port.proxyPort, d.port.container, d.port.direct⟩

def assignments (ports : List Port) : List Assignment := ports.flatMap Port.assignments

@[simp]
theorem assignments_nil : assignments [] = [] := rfl

@[simp]
theorem assignments_cons (p : Port) (rest : List Port) :
    assignments (p :: rest) = p.assignments ++ assignments rest := rfl

/-! ### Ports that are read have no routes -/

theorem Port.routes_of_ofFields {texts : List String} {p : Port} (h : ofFields texts = .ok p) :
    p.routes = [] := by
  unfold ofFields at h
  split at h
  next => exact Except.ok.inj h ▸ rfl
  next => exact Except.ok.inj h ▸ rfl
  next =>
    split at h
    next => exact Except.ok.inj h ▸ rfl
    next => exact Except.ok.inj h ▸ rfl
  next => exact absurd h (by simp)

theorem Port.routes_of_parse {written : String} {p : Port} (h : parse written = .ok p) :
    p.routes = [] := by
  unfold parse at h
  split at h
  next => exact routes_of_ofFields h
  next => exact absurd h (by simp)

theorem routes_of_parse_declaration {written : String} {d : Declaration}
    (h : Declaration.parse written = .ok d) : d.port.routes = [] := by
  unfold Declaration.parse at h
  obtain ⟨⟨strategy, rest⟩, -, h⟩ := Except.bind_eq_ok_iff.mp h
  obtain ⟨⟨⟩, -, h⟩ := Except.bind_eq_ok_iff.mp h
  obtain ⟨port, hport, h⟩ := Except.bind_eq_ok_iff.mp h
  obtain rfl := Except.ok.inj h
  exact Port.routes_of_parse (Except.mapError_eq_ok_iff.mp hport)

/-- The port of a declaration has its route and no other. -/
theorem assignments_toPort {d : Declaration} (h : d.port.routes = []) :
    d.toPort.assignments = [d.assignment] := by
  unfold Port.assignments Declaration.toPort
  rw [h]
  rfl

/-! ### What reading on assigns -/

theorem assignments_addPort_of_routes_eq_nil {port : Port} (h : port.routes = [])
    (out : List Port) : assignments (addPort port out) = assignments out := by
  have hport : port.assignments = [] := by rw [Port.assignments, h, List.map_nil]
  induction out with
  | nil => simp [addPort, hport]
  | cons p rest ih =>
    rw [addPort]
    split
    next => rw [h, mergeRoutes]
    next => rw [assignments_cons, assignments_cons, ih]

theorem assignments_addPort_of_notMem {port : Port} {out : List Port} (h : port.key ∉ keys out) :
    assignments (addPort port out) = assignments out ++ port.assignments := by
  induction out with
  | nil => simp [addPort]
  | cons p rest ih =>
    have hrest : port.key ∉ keys rest := fun hrest ↦ h (List.mem_cons_of_mem _ hrest)
    have hother : p.key ≠ port.key := fun hsame ↦ h (List.mem_cons.mpr (.inl hsame.symm))
    rw [addPort, if_neg hother, assignments_cons, assignments_cons, ih hrest, List.append_assoc]

theorem assignments_addWritten {out out' : List Port} {texts : List String}
    (h : addWritten out texts = .ok out') : assignments out' = assignments out := by
  induction texts generalizing out with
  | nil => rw [Except.ok.inj h]
  | cons written rest ih =>
    obtain ⟨port, hport, hrest⟩ := addWritten_cons_eq_ok h
    rw [ih hrest, assignments_addPort_of_routes_eq_nil (Port.routes_of_parse hport)]

/-- A port that agrees with a declaration answers for its route as it is declared. -/
theorem perm_assignments_of_agrees {p : Port} {d : Declaration}
    (hcontainer : p.container = d.port.container) (h : agrees p d.port = true) :
    { p with routes := p.routes ++ [d.route] : Port }.assignments ~
      d.assignment :: p.assignments := by
  obtain ⟨⟨hproxy, hdirect⟩, -⟩ :
      (p.proxyPort = d.port.proxyPort ∧ p.direct = d.port.direct) ∧ _ := by
    simpa only [agrees, Bool.and_eq_true, beq_iff_eq] using h
  have hassigned :
      (⟨d.route, p.proxyPort, p.container, p.direct⟩ : Assignment) = d.assignment := by
    rw [Declaration.assignment, hproxy, hcontainer, hdirect]
  simp only [Port.assignments, List.map_append, List.map_singleton, hassigned]
  exact List.perm_append_singleton d.assignment _

theorem perm_assignments_of_attachRoute {d : Declaration} {out out' : List Port}
    (h : attachRoute d out = .ok (some out')) :
    assignments out' ~ d.assignment :: assignments out := by
  induction out generalizing out' with
  | nil => exact absurd (Except.ok.inj h) (by simp)
  | cons p rest ih =>
    rw [attachRoute] at h
    split at h
    next hcontainer =>
      split at h
      next hagrees =>
        obtain rfl := Option.some.inj (Except.ok.inj h)
        rw [assignments_cons, assignments_cons, ← List.cons_append]
        exact (perm_assignments_of_agrees hcontainer hagrees).append_right _
      next => exact absurd h (by simp)
    next =>
      obtain ⟨found, hfound, hout⟩ := Except.map_eq_ok_iff.mp h
      obtain ⟨rest', rfl, rfl⟩ := Option.map_eq_some_iff.mp hout
      rw [assignments_cons, assignments_cons]
      exact ((ih hfound).append_left _).trans List.perm_middle

theorem key_notMem_of_container {d : Declaration} {out : List Port}
    (h : ∀ p ∈ out, p.container ≠ d.port.container) : d.toPort.key ∉ keys out := by
  intro hkey
  obtain ⟨p, hp, hsame⟩ := List.mem_map.mp hkey
  exact h p hp (Prod.mk.inj (Prod.mk.inj hsame).2).2

theorem perm_assignments_of_attach {d : Declaration} {out out' : List Port}
    (hd : d.port.routes = []) (h : attach d out = .ok out') :
    assignments out' ~ d.assignment :: assignments out := by
  obtain ⟨found, hfound, rfl⟩ := Except.map_eq_ok_iff.mp h
  rcases attachRoute_cases hfound with ⟨out', rfl, -⟩ | ⟨rfl, hnone⟩
  · exact perm_assignments_of_attachRoute hfound
  · have hadded := assignments_addPort_of_notMem (key_notMem_of_container hnone)
    rw [Option.getD_none, hadded, assignments_toPort hd]
    exact List.perm_append_singleton d.assignment _

theorem bare_of_mem_attach {d : Declaration} {out out' : List Port} (h : attach d out = .ok out')
    {o : Port} (ho : o ∈ out') : o.bare ∈ bares out ∨ o.bare = d.port.bare := by
  obtain ⟨found, hfound, rfl⟩ := Except.map_eq_ok_iff.mp h
  rcases attachRoute_cases hfound with ⟨out', rfl, hbares⟩ | ⟨rfl, -⟩
  · exact .inl (hbares ▸ List.mem_map_of_mem ho)
  · exact @bare_of_mem_addPort d.toPort _ _ ho

/-- What reading declarations does: each assigns its route, and every port was there before or
stems from one of them. -/
structure Attaches (texts : List String) (out out' : List Port) : Prop where
  assigned : ∃ declarations,
    List.Forall₂ (fun written d ↦ Declaration.parse written = .ok d) texts declarations ∧
      assignments out' ~ declarations.map Declaration.assignment ++ assignments out
  origin : ∀ o ∈ out', o.bare ∈ bares out ∨
    ∃ written ∈ texts, ∃ d, Declaration.parse written = .ok d ∧ o.bare = d.port.bare

theorem attaches_of_attachWritten {out out' : List Port} {texts : List String}
    (h : attachWritten out texts = .ok out') : Attaches texts out out' := by
  induction texts generalizing out with
  | nil =>
    obtain rfl := Except.ok.inj h
    exact ⟨⟨[], .nil, .refl _⟩, fun o ho ↦ .inl (List.mem_map_of_mem ho)⟩
  | cons written rest ih =>
    obtain ⟨d, mid, hd, hattach, hrest⟩ := attachWritten_cons_eq_ok h
    have hmid := perm_assignments_of_attach (routes_of_parse_declaration hd) hattach
    refine ⟨?_, fun o ho ↦ ?_⟩
    · obtain ⟨declarations, hdeclarations, hperm⟩ := (ih hrest).assigned
      refine ⟨d :: declarations, .cons hd hdeclarations, ?_⟩
      calc
        assignments out'
        _ ~ declarations.map Declaration.assignment ++ assignments mid := hperm
        _ ~ declarations.map Declaration.assignment ++ d.assignment :: assignments out :=
          hmid.append_left _
        _ ~ (d :: declarations).map Declaration.assignment ++ assignments out :=
          List.perm_middle
    · rcases (ih hrest).origin o ho with hbare | ⟨later, hlater, horigin⟩
      · obtain ⟨p, hp, hsame⟩ := List.mem_map.mp hbare
        rcases bare_of_mem_attach hattach hp with hout | hport
        · exact .inl (hsame ▸ hout)
        · exact .inr ⟨written, .head _, d, hd, hsame.symm.trans hport⟩
      · exact .inr ⟨later, .tail _ hlater, horigin⟩

/-! ### The ports of an image -/

/-- Where a port of an image comes from, leaving aside its routes. -/
inductive Stems (ports proxies exposed : List String) (p : Port) : Prop where
  | declared (written : String) (port : Port) (mem : written ∈ ports)
      (parsed : Port.parse written = .ok port) (same : p.bare = port.bare)
  | proxied (written : String) (d : Declaration) (mem : written ∈ proxies)
      (parsed : Declaration.parse written = .ok d) (same : p.bare = d.port.bare)
  | exposed (written : String) (port : Port) (no_ports : ports = []) (no_proxies : proxies = [])
      (mem : written ∈ exposed) (parsed : Port.parse written = .ok port) (same : p.bare = port.bare)

/-- What holds of the ports of an image however they are declared. -/
structure Resolved (image : String) (ports proxies exposed : List String) (out : List Port) :
    Prop where
  ne_nil : out ≠ []
  nodup_keys : (keys out).Nodup
  stems : ∀ p ∈ out, Stems ports proxies exposed p
  /-- What the image exposes does not count where anything is declared. -/
  of_declared : ports ≠ [] ∨ proxies ≠ [] →
    ∀ others, resolvePorts image ports proxies others = .ok out
  /-- Every declared route is assigned once, and no other route is. -/
  assigned : ∃ declarations,
    List.Forall₂ (fun written d ↦ Declaration.parse written = .ok d) proxies declarations ∧
      assignments out ~ declarations.map Declaration.assignment

section Resolved

variable {image : String} {ports proxies exposed : List String} {out : List Port}

theorem needsInspection_iff : needsInspection ports proxies = true ↔ ports = [] ∧ proxies = [] := by
  rw [needsInspection, Bool.and_eq_true, List.isEmpty_iff, List.isEmpty_iff]

/-- Where nothing is declared, no port is there before those that the image exposes. -/
theorem proxied_eq_nil (h : needsInspection ports proxies = true) {declared proxied : List Port}
    (hdeclared : addWritten [] ports = .ok declared)
    (hproxied : attachWritten declared proxies = .ok proxied) : proxied = [] := by
  obtain ⟨rfl, rfl⟩ := needsInspection_iff.mp h
  obtain rfl := Except.ok.inj hdeclared
  exact (Except.ok.inj hproxied).symm

theorem resolvePorts_eq_of_declared (h : ports ≠ [] ∨ proxies ≠ []) (others : List String) :
    resolvePorts image ports proxies others = resolvePorts image ports proxies exposed := by
  have hinspect : ¬needsInspection ports proxies = true := by
    rw [needsInspection_iff, not_and_or]
    exact h
  simp only [resolvePorts, if_neg hinspect]

theorem stems_of_resolvePorts (h : resolvePorts image ports proxies exposed = .ok out) :
    ∀ p ∈ out, Stems ports proxies exposed p := by
  obtain ⟨declared, proxied, hdeclared, hproxied, -, hall⟩ := resolvePorts_eq_ok h
  have hstems : ∀ p ∈ proxied, Stems ports proxies exposed p := by
    intro p hp
    rcases (attaches_of_attachWritten hproxied).origin p hp with
      hbare | ⟨written, hmem, d, hd, hsame⟩
    · obtain ⟨q, hq, hqp⟩ := List.mem_map.mp hbare
      rcases exists_parse_of_addWritten hdeclared hq with
        hnone | ⟨written, hmem, port, hport, hsame⟩
      · exact absurd hnone (by simp)
      · exact .declared written port hmem hport (hqp.symm.trans hsame)
    · exact .proxied written d hmem hd hsame
  split at hall
  next hinspect =>
    obtain ⟨hports, hproxies⟩ := needsInspection_iff.mp hinspect
    obtain rfl := proxied_eq_nil hinspect hdeclared hproxied
    intro o ho
    rcases exists_parse_of_addWritten hall ho with hnone | ⟨written, hmem, port, hport, hsame⟩
    · exact absurd hnone (by simp)
    · exact .exposed written port hports hproxies hmem hport hsame
  next =>
    obtain rfl := Except.ok.inj hall
    exact hstems

theorem perm_assignments_of_resolvePorts
    (h : resolvePorts image ports proxies exposed = .ok out) :
    ∃ declarations,
      List.Forall₂ (fun written d ↦ Declaration.parse written = .ok d) proxies declarations ∧
        assignments out ~ declarations.map Declaration.assignment := by
  obtain ⟨declared, proxied, hdeclared, hproxied, -, hall⟩ := resolvePorts_eq_ok h
  obtain ⟨declarations, hdeclarations, hperm⟩ := (attaches_of_attachWritten hproxied).assigned
  have hnone : assignments declared = [] := assignments_addWritten hdeclared
  have hout : assignments out = assignments proxied := by
    split at hall
    next => exact assignments_addWritten hall
    next => rw [Except.ok.inj hall]
  rw [hnone, List.append_nil] at hperm
  exact ⟨declarations, hdeclarations, hout ▸ hperm⟩

theorem resolved_of_resolvePorts (h : resolvePorts image ports proxies exposed = .ok out) :
    Resolved image ports proxies exposed out where
  ne_nil := by
    obtain ⟨declared, proxied, -, -, hne, -⟩ := resolvePorts_eq_ok h
    exact hne
  nodup_keys := nodup_keys_resolvePorts h
  stems := stems_of_resolvePorts h
  of_declared hdeclared others := (resolvePorts_eq_of_declared hdeclared others).trans h
  assigned := perm_assignments_of_resolvePorts h

end Resolved

/-- One route is declared twice, for a port whose host port the declaration leaves out, and another
for a port that is not declared. -/
def repeatedRoute : List String :=
  ["example.com:443:8080", "example.com:443:8080", "other.com:443:9090/api"]

def repeatedRoutePorts : List Port :=
  [⟨some "443", some "4000", "8080", false,
      [⟨"example.com", "/", none⟩, ⟨"example.com", "/", none⟩]⟩,
    ⟨some "443", none, "9090", false, [⟨"other.com", "/api", none⟩]⟩]

/-- What the image exposes is left out, and the route stands with its port twice. -/
theorem resolved_repeatedRoute :
    resolvePorts "api" ["443:4000:8080"] repeatedRoute ["3000"] = .ok repeatedRoutePorts ∧
      Resolved "api" ["443:4000:8080"] repeatedRoute ["3000"] repeatedRoutePorts := by
  have hports :
      resolvePorts "api" ["443:4000:8080"] repeatedRoute ["3000"] = .ok repeatedRoutePorts := by
    decide +kernel
  exact ⟨hports, resolved_of_resolvePorts hports⟩

end ClusterPlan.Proxy
