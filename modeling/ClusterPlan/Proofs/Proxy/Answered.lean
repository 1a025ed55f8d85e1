import ClusterPlan.Proofs.Proxy.Assignments
import ClusterPlan.Proofs.Proxy.WellFormed
import ClusterPlan.Proofs.Sequence

/-!
# Declarations that are answered

Every proxy declaration of an image has a port that carries it. If the port is proxied, it claims
the domain, the port and the path that are declared. Where a plan may override nothing, all claims
of these three lead to one pool, so that no claim is lost, whichever port makes it first.

A port that is published on the server directly makes no claims. Its declarations have no location
in the plan, and the server itself answers on their port.
-/

namespace ClusterPlan.Proxy

/-! ### The port of a declaration -/

/-- The port has the route of a declaration and is reached as it says. The declaration may leave
out the port that is bound on the server. -/
structure Port.Carries (p : Port) (d : Declaration) : Prop where
  route : d.route ∈ p.routes
  proxyPort : p.proxyPort = d.port.proxyPort
  container : p.container = d.port.container
  direct : p.direct = d.port.direct

theorem Port.carries_of_mem_assignments {p : Port} {d : Declaration}
    (h : d.assignment ∈ p.assignments) : p.Carries d := by
  obtain ⟨route, hroute, hsame⟩ := List.mem_map.mp h
  obtain ⟨rfl, hproxy, hcontainer, hdirect⟩ := Assignment.mk.inj hsame
  exact ⟨hroute, hproxy, hcontainer, hdirect⟩

theorem exists_carries_of_resolvePorts {image : String} {ports proxies exposed : List String}
    {out : List Port} (h : resolvePorts image ports proxies exposed = .ok out) {written : String}
    (hwritten : written ∈ proxies) :
    ∃ d, Declaration.parse written = .ok d ∧ ∃ p ∈ out, p.Carries d := by
  obtain ⟨declarations, hread, hperm⟩ := perm_assignments_of_resolvePorts h
  obtain ⟨d, hmem, hd⟩ := exists_right_of_forall₂ hread hwritten
  have hassigned : d.assignment ∈ assignments out :=
    hperm.mem_iff.mpr (List.mem_map_of_mem hmem)
  obtain ⟨p, hp, hassignment⟩ := List.mem_flatMap.mp hassigned
  exact ⟨d, hd, p, hp, Port.carries_of_mem_assignments hassignment⟩

/-- The declaration is left to the server itself: a port that carries it is published there, on the
port that is declared for the proxy. -/
def Placement.Publishes (p : Placement) (d : Declaration) : Prop :=
  ∃ port ∈ p.ports, port.Carries d ∧ port.isProxied = false ∧ port.bound? = d.port.proxyPort

namespace Plan

/-- There is a listener for the domain on the port, with a location for the path that leads to the
pool. -/
def LeadsTo (plan : Plan) (key : Key) (pool : Pool) : Prop :=
  pool ∈ plan.pools ∧ ∃ listener ∈ plan.listeners, ∃ location ∈ listener.locations,
    key = (listener.domain, listener.port, location.path) ∧ location.pool = pool.name

/-- What is declared leads to the pool of the container port, and from there to the port of the
placement that carries it. -/
def Answers (plan : Plan) (p : Placement) (d : Declaration) : Prop :=
  ∃ port ∈ p.ports, port.Carries d ∧ ∃ proxyPort, d.port.proxyPort = some proxyPort ∧
    ∃ pool, plan.LeadsTo (d.route.domain, proxyPort, d.route.path) pool ∧
      pool.name = Naming.sanitize (p.image ++ "-" ++ d.port.container) ∧
      p.backend port ∈ pool.backends

/-! ### Claims that are not lost -/

section OfServed

variable {options : PlanOptions} {server : String} {placements : List Placement}
  {ports : List Served} {s : Served} {key : Key}

/-- Without conflicts a claim leads to the pool of the port that makes it, even if another port of
that pool made it before. -/
theorem exists_leadsTo_of_claims
    (hnone : conflict? server (ports.flatMap (·.claims)) = none) (hs : s ∈ ports)
    (hclaims : s.Claims key) :
    ∃ pool, (ofServed options server placements ports).LeadsTo key pool ∧
      pool.name = s.poolName ∧ ∀ b ∈ s.backends placements, b ∈ pool.backends := by
  obtain ⟨first, hfirst⟩ := exists_firstClaimant?_iff.mpr ⟨s, hs, hclaims⟩
  have hname : first.poolName = s.poolName := by
    by_contra hother
    exact conflict?_claims_ne_none_iff.mpr ⟨first, mem_of_firstClaimant? hfirst, s, hs, hother,
      key, claims_of_firstClaimant? hfirst, hclaims⟩ hnone
  have hholder : (firstClaimant? ports key).map (·.poolName) = some s.poolName := by
    rw [hfirst, Option.map_some, hname]
  obtain ⟨pool, hpool, hpoolname⟩ :=
    (exists_mem_pools_iff options server placements ports).mpr ⟨key, hholder⟩
  obtain ⟨l, hl, location, hlocation, hkey, hleads⟩ :=
    mem_routes.mp ((mem_routes_ofServed options server placements ports).mpr hholder)
  refine ⟨pool, ⟨hpool, l, hl, location, hlocation, hkey, ?_⟩, hpoolname, fun b hb ↦ ?_⟩
  · exact hleads.symm.trans hpoolname.symm
  · exact (mem_backends_of_mem_pools options placements ports hpool).mpr
      ⟨s, hs, hpoolname.symm, hb⟩

end OfServed

/-! ### Declarations -/

section Declarations

variable {strategy : Strategy} {server : String} {placements : List Placement} {out : Plan}
  {p : Placement} {port : Port} {d : Declaration}

theorem answers_of_carries (hplan : plan ⟨strategy, false⟩ server placements = .ok out)
    (hp : p ∈ placements) (hserver : p.server = server) (hport : port ∈ p.ports)
    (hcarries : port.Carries d) {proxyPort : String} (hproxy : d.port.proxyPort = some proxyPort)
    (hdirect : d.port.direct = false) : out.Answers p d := by
  obtain ⟨hnone, rfl⟩ := plan_eq_ok_iff.mp hplan
  have hown : port.proxyPort = some proxyPort := hcarries.proxyPort.trans hproxy
  have hproxied : port.isProxied = true := by
    rw [Port.isProxied, hown, hcarries.direct, hdirect]
    rfl
  have hs : ⟨p, port, proxyPort⟩ ∈ served server placements :=
    mem_served.mpr ⟨hp, hserver, hport, hproxied, hown⟩
  have hclaims : Served.Claims ⟨p, port, proxyPort⟩ (d.route.domain, proxyPort, d.route.path) :=
    .inl ⟨d.route, hcarries.route, rfl⟩
  obtain ⟨pool, hleads, hname, hbackends⟩ :=
    exists_leadsTo_of_claims (hnone.resolve_left Bool.false_ne_true) hs hclaims
  refine ⟨port, hport, hcarries, proxyPort, hproxy, pool, hleads, ?_, ?_⟩
  · rw [hname, Served.poolName, hcarries.container]
  · exact hbackends _ (Served.backend_mem_backends hs)

theorem publishes_of_carries (hport : port ∈ p.ports) (hcarries : port.Carries d)
    (hdirect : d.port.direct = true) : p.Publishes d := by
  have hown : port.direct = true := hcarries.direct.trans hdirect
  refine ⟨port, hport, hcarries, ?_, ?_⟩
  · rw [Port.isProxied, hown, Bool.not_true, Bool.and_false]
  · rw [Port.bound?, hown, if_pos rfl, hcarries.proxyPort]

/-- No declaration of an image on the server is lost: either the proxy answers it, or it is
declared to be published directly and the image takes its port on the server. -/
theorem answers_or_publishes (hplan : plan ⟨strategy, false⟩ server placements = .ok out)
    (hp : p ∈ placements) (hserver : p.server = server) {image : String}
    {ports proxies exposed : List String}
    (hports : resolvePorts image ports proxies exposed = .ok p.ports) {written : String}
    (hwritten : written ∈ proxies) :
    ∃ d, Declaration.parse written = .ok d ∧
      (d.port.direct = false → out.Answers p d) ∧ (d.port.direct = true → p.Publishes d) := by
  obtain ⟨d, hd, port, hport, hcarries⟩ := exists_carries_of_resolvePorts hports hwritten
  obtain ⟨proxyPort, hproxy, -⟩ := (isRead_of_parse_declaration hd).proxyPort
  exact ⟨d, hd, answers_of_carries hplan hp hserver hport hcarries hproxy,
    publishes_of_carries hport hcarries⟩

end Declarations

/-- One declaration for a port that is bound on the server, and one for a port of its own that is
published there. -/
def shopProxies : List String := ["example.com:80:4000/shop", "admin.example.com:9000:9000:9000"]

def shopDeclaration : Declaration :=
  ⟨⟨"example.com", "/shop", none⟩, ⟨some "80", none, "4000", false, []⟩⟩

def adminDeclaration : Declaration :=
  ⟨⟨"admin.example.com", "/", none⟩, ⟨some "9000", none, "9000", true, []⟩⟩

def shopWithAdmin : Placement :=
  ⟨"web-1", some "10.0.0.1", "shop",
    [⟨some "80", some "3000", "4000", false, [shopDeclaration.route]⟩, adminDeclaration.toPort]⟩

def shopWithAdminPlan : Plan :=
  ⟨"web-1", [⟨"shop-4000", .leastConn, [⟨"10.0.0.1", "3000"⟩]⟩],
    [⟨"example.com", "80", [⟨"/shop", "shop-4000"⟩]⟩]⟩

theorem answers_shop_publishes_admin :
    resolvePorts "shop" ["80:3000:4000"] shopProxies [] = .ok shopWithAdmin.ports ∧
      plan ⟨.leastConn, false⟩ "web-1" [shopWithAdmin] = .ok shopWithAdminPlan ∧
      shopWithAdminPlan.Answers shopWithAdmin shopDeclaration ∧
      shopWithAdmin.Publishes adminDeclaration := by
  have hports : resolvePorts "shop" ["80:3000:4000"] shopProxies [] = .ok shopWithAdmin.ports := by
    decide +kernel
  have hplan : plan ⟨.leastConn, false⟩ "web-1" [shopWithAdmin] = .ok shopWithAdminPlan := by
    decide +kernel
  have hshop : Declaration.parse "example.com:80:4000/shop" = .ok shopDeclaration := by
    decide +kernel
  have hadmin : Declaration.parse "admin.example.com:9000:9000:9000" = .ok adminDeclaration := by
    decide +kernel
  obtain ⟨d, hd, hanswers, -⟩ :=
    answers_or_publishes hplan (.head _) rfl hports (.head _)
  obtain ⟨d', hd', -, hpublishes⟩ :=
    answers_or_publishes hplan (.head _) rfl hports (.tail _ (.head _))
  obtain rfl := Except.ok.inj (hd.symm.trans hshop)
  obtain rfl := Except.ok.inj (hd'.symm.trans hadmin)
  exact ⟨hports, hplan, hanswers rfl, hpublishes rfl⟩

/-- A declaration that is published directly, with a domain and a path of its own. -/
def appDeclaration : Declaration :=
  ⟨⟨"example.com", "/app", none⟩, ⟨some "80", none, "3000", true, []⟩⟩

def appPlacement : Placement := ⟨"web-1", none, "api", [appDeclaration.toPort]⟩

/-- The proxy has no part in what is published directly, whatever domain and path are declared. -/
theorem not_answers_appDeclaration :
    Declaration.parse "example.com:80:80:3000/app" = .ok appDeclaration ∧
      resolvePorts "api" [] ["example.com:80:80:3000/app"] [] = .ok appPlacement.ports ∧
      plan ⟨.leastConn, false⟩ "web-1" [appPlacement] = .ok ⟨"web-1", [], []⟩ ∧
      ¬Answers ⟨"web-1", [], []⟩ appPlacement appDeclaration := by
  refine ⟨by decide +kernel, by decide +kernel, by decide +kernel, ?_⟩
  rintro ⟨-, -, -, -, -, pool, ⟨hpool, -⟩, -⟩
  exact absurd hpool List.not_mem_nil

end Plan

end ClusterPlan.Proxy
