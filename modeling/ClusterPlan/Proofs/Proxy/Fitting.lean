import ClusterPlan.Proofs.Proxy.Assignments

/-!
# Declarations and the ports that they fit

A proxy declaration fits a port that has its container port and that it does not contradict. Its
route should go to such a port where there is one. What decides is the first port of the container
port alone: if the declaration contradicts that one, it is refused, although it may fit a later one.

A port that is added for a declaration is the only one of its container port. So the route of every
declaration goes where it fits exactly when no declaration that is come to fits a declared port, but
contradicts the first one that is declared for the same container port. Where no container port is
declared twice, there is no such declaration.
-/

namespace ClusterPlan.Proxy

/-- The first port that has a container port. -/
def first? (container : String) (ports : List Port) : Option Port :=
  ports.find? (·.container == container)

abbrev containers (ports : List Port) : List String := ports.map Port.container

def Port.addRoute (p : Port) (route : Route) : Port := { p with routes := p.routes ++ [route] }

namespace Declaration

structure Fits (d : Declaration) (p : Port) : Prop where
  container : p.container = d.port.container
  agrees : agrees p d.port = true

/-- The declaration fits the first port of its container port. -/
def FitsFirst (d : Declaration) (ports : List Port) : Prop :=
  ∃ p, first? d.port.container ports = some p ∧ agrees p d.port = true

/-- The route of the declaration goes to a port that it fits, and all else stays. -/
def GoesWhereFits (d : Declaration) (out : List Port) : Prop :=
  ∃ front p back, out = front ++ p :: back ∧ d.Fits p ∧
    attach d out = .ok (front ++ p.addRoute d.route :: back)

end Declaration

/-- Where the ports `declared` are declared, the declaration is come to with the ports `out`. -/
structure Reaches (ports proxies : List String) (declared out : List Port) (d : Declaration) :
    Prop where
  parsed : addWritten [] ports = .ok declared
  before : ∃ before written after, proxies = before ++ written :: after ∧
    attachWritten declared before = .ok out ∧ Declaration.parse written = .ok d

/-- Every declaration that fits some port when it is come to goes to a port that it fits. -/
def AttachesWhereFits (ports proxies : List String) : Prop :=
  ∀ declared out d, Reaches ports proxies declared out d →
    (∃ p ∈ out, d.Fits p) → d.GoesWhereFits out

/-! ### One declaration -/

section Attach

variable {d : Declaration} {out front back : List Port} {p : Port}

theorem first?_eq_some_iff {container : String} :
    first? container out = some p ↔ p.container = container ∧
      ∃ front back, out = front ++ p :: back ∧ ∀ q ∈ front, q.container ≠ container := by
  simp [first?, List.find?_eq_some_iff_append]

theorem isSome_first?_iff {container : String} :
    (first? container out).isSome = true ↔ container ∈ containers out := by
  simp [first?]

theorem exists_first? {container : String} (h : container ∈ containers out) :
    ∃ p, first? container out = some p :=
  Option.isSome_iff_exists.mp (isSome_first?_iff.mpr h)

theorem Declaration.Fits.mem_containers (h : d.Fits p) (hp : p ∈ out) :
    d.port.container ∈ containers out :=
  List.mem_map.mpr ⟨p, hp, h.container⟩

theorem attachRoute_append (hfront : ∀ q ∈ front, q.container ≠ d.port.container)
    (hp : p.container = d.port.container) :
    attachRoute d (front ++ p :: back) =
      if agrees p d.port then .ok (some (front ++ p.addRoute d.route :: back))
      else .error (.contradiction p d.port) := by
  induction front with
  | nil =>
    rw [List.nil_append, attachRoute, if_pos hp]
    rfl
  | cons q front ih =>
    obtain ⟨hq, hrest⟩ := List.forall_mem_cons.mp hfront
    rw [List.cons_append, attachRoute, if_neg hq, ih hrest]
    split
    · rfl
    · rfl

/-- The first port of the container port takes the route, or the declaration is refused. -/
theorem attach_append (hfront : ∀ q ∈ front, q.container ≠ d.port.container)
    (hp : p.container = d.port.container) :
    attach d (front ++ p :: back) =
      if agrees p d.port then .ok (front ++ p.addRoute d.route :: back)
      else .error (.contradiction p d.port) := by
  rw [attach, attachRoute_append hfront hp]
  split
  · rfl
  · rfl

theorem goesWhereFits_iff : d.GoesWhereFits out ↔ d.FitsFirst out := by
  constructor
  · rintro ⟨front, p, back, hout, hfits, hattach⟩
    have hp : p ∈ out := by simp [hout]
    obtain ⟨first, hfirst⟩ := exists_first? (hfits.mem_containers hp)
    obtain ⟨hcontainer, before, after, rfl, hbefore⟩ := first?_eq_some_iff.mp hfirst
    refine ⟨first, hfirst, ?_⟩
    rw [attach_append hbefore hcontainer] at hattach
    split at hattach
    next hagrees => exact hagrees
    next => cases hattach
  · rintro ⟨p, hfirst, hagrees⟩
    obtain ⟨hcontainer, front, back, rfl, hfront⟩ := first?_eq_some_iff.mp hfirst
    refine ⟨front, p, back, rfl, ⟨hcontainer, hagrees⟩, ?_⟩
    rw [attach_append hfront hcontainer, if_pos hagrees]

end Attach

/-! ### Routes are no matter -/

section Bares

variable {d : Declaration} {ports more : List Port}

theorem containers_bares (ports : List Port) : containers (bares ports) = containers ports :=
  List.map_map

theorem exists_fits_bares_iff (ports : List Port) :
    (∃ p ∈ bares ports, d.Fits p) ↔ ∃ p ∈ ports, d.Fits p := by
  constructor
  · rintro ⟨_, hbare, hcontainer, hagrees⟩
    obtain ⟨p, hp, rfl⟩ := List.mem_map.mp hbare
    exact ⟨p, hp, hcontainer, hagrees⟩
  · rintro ⟨p, hp, hcontainer, hagrees⟩
    exact ⟨p.bare, List.mem_map_of_mem hp, hcontainer, hagrees⟩

theorem fitsFirst_bares_iff (ports : List Port) :
    d.FitsFirst (bares ports) ↔ d.FitsFirst ports := by
  have hfirst : first? d.port.container (bares ports) =
      (first? d.port.container ports).map Port.bare := List.find?_map
  unfold Declaration.FitsFirst
  rw [hfirst]
  cases first? d.port.container ports with
  | none => simp
  | some p => simp [agrees, Port.bare]

theorem first?_append (container : String) (ports more : List Port) :
    first? container (ports ++ more) = (first? container ports).or (first? container more) :=
  List.find?_append

theorem fitsFirst_append_of_mem (h : d.port.container ∈ containers ports) :
    d.FitsFirst (ports ++ more) ↔ d.FitsFirst ports := by
  unfold Declaration.FitsFirst
  rw [first?_append, Option.or_of_isSome (isSome_first?_iff.mpr h)]

theorem fitsFirst_append_of_notMem (h : d.port.container ∉ containers ports) :
    d.FitsFirst (ports ++ more) ↔ d.FitsFirst more := by
  have hnone : first? d.port.container ports = none :=
    Option.not_isSome_iff_eq_none.mp (mt isSome_first?_iff.mp h)
  unfold Declaration.FitsFirst
  rw [first?_append, hnone, Option.none_or]

/-- Where each container port stands once, there is no other port to be the first. -/
theorem fitsFirst_of_nodup (hnodup : (containers ports).Nodup) (h : ∃ p ∈ ports, d.Fits p) :
    d.FitsFirst ports := by
  obtain ⟨p, hp, hfits⟩ := h
  obtain ⟨first, hfirst⟩ := exists_first? (hfits.mem_containers hp)
  have hsame : first = p :=
    List.inj_on_of_nodup_map hnodup (List.mem_of_find?_eq_some hfirst) hp
      ((first?_eq_some_iff.mp hfirst).1.trans hfits.container.symm)
  exact ⟨first, hfirst, hsame ▸ hfits.agrees⟩

end Bares

/-! ### All declarations -/

/-- The declared ports come first, and each further port has a container port of its own. -/
def AddsContainers (declared out : List Port) : Prop :=
  ∃ new, bares out = bares declared ++ new ∧ (containers new).Nodup ∧
    ∀ p ∈ new, p.container ∉ containers declared

section AddsContainers

variable {declared out out' : List Port}

theorem AddsContainers.attach {d : Declaration} (h : AddsContainers declared out)
    (hattach : attach d out = .ok out') : AddsContainers declared out' := by
  obtain ⟨new, hbares, hnodup, hnew⟩ := h
  obtain ⟨found, hfound, rfl⟩ := Except.map_eq_ok_iff.mp hattach
  rcases attachRoute_cases hfound with ⟨out', rfl, hsame⟩ | ⟨rfl, hnone⟩
  · exact ⟨new, hsame.trans hbares, hnodup, hnew⟩
  · -- The port that is added has a container port that no port has had so far.
    have hcontainers : containers out = containers declared ++ containers new := by
      rw [← containers_bares out, ← containers_bares declared, hbares, containers, List.map_append]
    have hfresh : d.port.container ∉ containers declared ++ containers new := by
      rw [← hcontainers]
      intro hmem
      obtain ⟨p, hp, hcontainer⟩ := List.mem_map.mp hmem
      exact hnone p hp hcontainer
    rw [List.mem_append, not_or] at hfresh
    refine ⟨new ++ [d.port.bare], ?_, ?_, ?_⟩
    · rw [Option.getD_none, bares_addPort_of_notMem (key_notMem_of_container hnone), hbares,
        List.append_assoc]
      rfl
    · rw [containers, List.map_append]
      exact List.concat_eq_append ▸ hnodup.concat hfresh.2
    · intro p hp
      rcases List.mem_append.mp hp with hp | hp
      · exact hnew p hp
      · rw [List.mem_singleton.mp hp]
        exact hfresh.1

theorem AddsContainers.attachWritten {texts : List String} (h : AddsContainers declared out)
    (hattach : attachWritten out texts = .ok out') : AddsContainers declared out' := by
  induction texts generalizing out with
  | nil => rwa [← Except.ok.inj hattach]
  | cons written rest ih =>
    obtain ⟨d, middle, -, hfirst, hrest⟩ := attachWritten_cons_eq_ok hattach
    exact ih (h.attach hfirst) hrest

/-- Whether a declaration fits the first port of its container port, where it fits any, is decided
by the declared ports. -/
theorem AddsContainers.fitsFirst_iff {d : Declaration} (h : AddsContainers declared out) :
    ((∃ p ∈ out, d.Fits p) → d.FitsFirst out) ↔
      ((∃ p ∈ declared, d.Fits p) → d.FitsFirst declared) := by
  obtain ⟨new, hbares, hnodup, hnew⟩ := h
  rw [← exists_fits_bares_iff out, ← fitsFirst_bares_iff out, ← exists_fits_bares_iff declared,
    ← fitsFirst_bares_iff declared, hbares]
  by_cases hcontainer : d.port.container ∈ containers (bares declared)
  · rw [fitsFirst_append_of_mem hcontainer]
    have hfits : (∃ p ∈ bares declared ++ new, d.Fits p) ↔ ∃ p ∈ bares declared, d.Fits p := by
      constructor
      · rintro ⟨p, hp, hfits⟩
        rcases List.mem_append.mp hp with hp | hp
        · exact ⟨p, hp, hfits⟩
        · rw [containers_bares, ← hfits.container] at hcontainer
          exact absurd hcontainer (hnew p hp)
      · rintro ⟨p, hp, hfits⟩
        exact ⟨p, List.mem_append_left new hp, hfits⟩
    rw [hfits]
  · have hnone : ¬∃ p ∈ bares declared, d.Fits p := by
      rintro ⟨p, hp, hfits⟩
      exact hcontainer (hfits.mem_containers hp)
    rw [fitsFirst_append_of_notMem hcontainer]
    refine iff_of_true ?_ fun hfits ↦ absurd hfits hnone
    rintro ⟨p, hp, hfits⟩
    rcases List.mem_append.mp hp with hp | hp
    · exact absurd ⟨p, hp, hfits⟩ hnone
    · exact fitsFirst_of_nodup hnodup ⟨p, hp, hfits⟩

end AddsContainers

section Reaches

variable {ports proxies : List String} {declared out : List Port} {d : Declaration}

theorem Reaches.addsContainers (h : Reaches ports proxies declared out d) :
    AddsContainers declared out := by
  obtain ⟨before, _, _, -, hattach, -⟩ := h.before
  have hstart : AddsContainers declared declared := ⟨[], by simp, List.nodup_nil, nofun⟩
  exact hstart.attachWritten hattach

/-- Routes go where they fit unless a declaration contradicts the first declared port of its
container port and fits another one. -/
theorem attachesWhereFits_iff :
    AttachesWhereFits ports proxies ↔
      ∀ declared out d, Reaches ports proxies declared out d →
        (∃ p ∈ declared, d.Fits p) → d.FitsFirst declared := by
  unfold AttachesWhereFits
  simp only [goesWhereFits_iff]
  exact forall₃_congr fun declared out d ↦
    forall_congr' fun hreaches ↦ hreaches.addsContainers.fitsFirst_iff

/-- Container ports that are declared once leave nothing to choose. -/
theorem goesWhereFits_of_nodup (h : Reaches ports proxies declared out d)
    (hnodup : (containers declared).Nodup) (hfits : ∃ p ∈ out, d.Fits p) : d.GoesWhereFits out :=
  goesWhereFits_iff.mpr (h.addsContainers.fitsFirst_iff.mpr (fitsFirst_of_nodup hnodup) hfits)

end Reaches

/-! ### A container port that is declared twice -/

/-- One container port behind two ports of the proxy. -/
def twoListeners : List String := ["80:8080", "443:8080"]

def secondListener : Port := ⟨some "443", none, "8080", false, []⟩

/-- A declaration for the second of them is refused, because it contradicts the first. -/
theorem not_attachesWhereFits_twoListeners :
    resolvePorts "api" twoListeners ["example.com:443:8080"] [] =
        .error (.invalidProxy "example.com:443:8080"
          (.contradiction ⟨some "80", none, "8080", false, []⟩ secondListener)) ∧
      ¬AttachesWhereFits twoListeners ["example.com:443:8080"] := by
  refine ⟨by decide +kernel, fun hattaches ↦ ?_⟩
  have hreaches : Reaches twoListeners ["example.com:443:8080"]
      [⟨some "80", none, "8080", false, []⟩, secondListener]
      [⟨some "80", none, "8080", false, []⟩, secondListener]
      ⟨⟨"example.com", "/", none⟩, secondListener⟩ :=
    ⟨by decide +kernel, [], _, [], rfl, rfl, by decide +kernel⟩
  obtain ⟨p, hfirst, hagrees⟩ := attachesWhereFits_iff.mp hattaches _ _ _ hreaches
    ⟨secondListener, by simp, rfl, by decide⟩
  obtain rfl := Option.some.inj hfirst
  exact absurd hagrees (by decide)

end ClusterPlan.Proxy
