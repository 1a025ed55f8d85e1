import ClusterPlan.Proofs.Registry.Names
import ClusterPlan.Proofs.Sequence

/-!
# Unknown names

The check of the references looks at every name in the three lists of every server, and lets a
registry pass exactly when each of them is the name of an entity of its kind. Otherwise it tells of
the unknown name whose place comes first. Look-ups leave unknown names out, so nothing is lost by
them in a registry that has passed: there is one entity for each name, in the order of the names.
-/

namespace ClusterPlan

open Entity

namespace Registry

/-! ### Places of names -/

/-- A list of names in a server, all of them names of entities of one kind. -/
structure NameList where
  field : String
  kind : Kind
  namesIn : Server → List String

def nameLists : List NameList :=
  [⟨"ssh_keys", .sshKey, (·.sshKeys)⟩, ⟨"services", .service, (·.services)⟩,
    ⟨"volumes", .volume, (·.volumes)⟩]

def NameList.reference (l : NameList) (server : Server) (name : String) : UnknownReference :=
  ⟨server.name, l.field, l.kind, name⟩

/-- Where a name stands: which server, which of its lists, and where in the list. -/
structure Place where
  server : ℕ
  list : ℕ
  position : ℕ

/-- Servers come first, then the lists of a server, then the names of a list. -/
def Place.Before (p q : Place) : Prop :=
  p.server < q.server ∨ p.server = q.server ∧
    (p.list < q.list ∨ p.list = q.list ∧ p.position < q.position)

def reference? (r : Registry) (p : Place) : Option UnknownReference :=
  r.servers[p.server]?.bind fun server ↦ nameLists[p.list]?.bind fun l ↦
    (l.namesIn server)[p.position]?.map (l.reference server)

/-- The reference at a place leads to no entity. -/
def DanglesAt (r : Registry) (p : Place) (ref : UnknownReference) : Prop :=
  r.reference? p = some ref ∧ ref.target ∉ r.names ref.targetKind

/-- A reference dangles at a place, and none does at any place before. -/
structure DanglesFirst (r : Registry) (p : Place) (ref : UnknownReference) : Prop where
  dangles : r.DanglesAt p ref
  first : ∀ q, q.Before p → ∀ other, ¬r.DanglesAt q other

/-- Every name in a server is the name of an entity of the kind that its list is for. -/
structure Knows (r : Registry) (server : Server) : Prop where
  sshKeys : ∀ name ∈ server.sshKeys, ∃ key ∈ r.sshKeys, key.name = name
  services : ∀ name ∈ server.services, ∃ service ∈ r.services, service.name = name
  volumes : ∀ name ∈ server.volumes, ∃ volume ∈ r.volumes, volume.name = name

/-- What the check of the references tells, and what can be relied on when it has passed. -/
structure ResolvesExactly (r : Registry) : Prop where
  ok_iff : r.checkReferences = .ok () ↔ ∀ server ∈ r.servers, r.Knows server
  error_iff : ∀ ref, r.checkReferences = .error ref ↔ ∃ p, r.DanglesFirst p ref
  keysOf : r.checkReferences = .ok () → ∀ server ∈ r.servers,
    List.Forall₂ (fun name key ↦ key ∈ r.sshKeys ∧ key.name = name) server.sshKeys
      (r.keysOf server)
  servicesOf : r.checkReferences = .ok () → ∀ server ∈ r.servers,
    List.Forall₂ (fun name service ↦ service ∈ r.services ∧ service.name = name) server.services
      (r.servicesOf server)

variable {r : Registry} {p q : Place} {ref other : UnknownReference}

theorem Place.before_trichotomy (p q : Place) : p.Before q ∨ p = q ∨ q.Before p := by
  obtain ⟨i, j, k⟩ := p
  obtain ⟨i', j', k'⟩ := q
  simp only [Before, mk.injEq]
  omega

theorem reference?_eq_some_iff :
    r.reference? p = some ref ↔ ∃ server l name, r.servers[p.server]? = some server ∧
      nameLists[p.list]? = some l ∧ (l.namesIn server)[p.position]? = some name ∧
      l.reference server name = ref := by
  simp only [reference?, Option.bind_eq_some_iff, Option.map_eq_some_iff]
  constructor
  · rintro ⟨server, hserver, l, hl, name, hname, href⟩
    exact ⟨server, l, name, hserver, hl, hname, href⟩
  · rintro ⟨server, l, name, hserver, hl, hname, href⟩
    exact ⟨server, hserver, l, hl, name, hname, href⟩

/-! ### The search -/

def missing? (r : Registry) (server : Server) (l : NameList) (name : String) :
    Option UnknownReference :=
  if r.has l.kind name then none else some (l.reference server name)

/-- The search goes through servers, lists and names, one within the other. -/
def firstMissing? (r : Registry) : Option UnknownReference :=
  r.servers.findSome? fun server ↦ nameLists.findSome? fun l ↦
    (l.namesIn server).findSome? (r.missing? server l)

theorem missing?_eq_none_iff {server : Server} {l : NameList} {name : String} :
    r.missing? server l name = none ↔ name ∈ r.names l.kind := by
  rw [missing?, ← has_iff]
  split <;> simp_all

theorem missing?_eq_some_iff {server : Server} {l : NameList} {name : String} :
    r.missing? server l name = some ref ↔
      l.reference server name = ref ∧ name ∉ r.names l.kind := by
  rw [missing?, ← has_iff]
  split <;> simp_all

theorem find?_references (r : Registry) :
    ((r.servers.flatMap referencesOf).find? fun ref ↦ !r.has ref.targetKind ref.target) =
      r.firstMissing? := by
  have hlist (server : Server) (l : NameList) :
      ((l.namesIn server).map (l.reference server)).find?
          (fun ref ↦ !r.has ref.targetKind ref.target) =
        (l.namesIn server).findSome? (r.missing? server l) := by
    induction l.namesIn server with
    | nil => rfl
    | cons name rest ih =>
      rw [List.map_cons, List.find?_cons, List.findSome?_cons, ih, missing?]
      cases hhas : r.has l.kind name <;> simp [NameList.reference, hhas]
  have hserver (server : Server) :
      referencesOf server = nameLists.flatMap fun l ↦ (l.namesIn server).map (l.reference server) := by
    simp only [referencesOf, nameLists, List.flatMap_cons, List.flatMap_nil, List.append_nil,
      List.append_assoc]
    rfl
  rw [firstMissing?, List.find?_flatMap]
  simp only [hserver, List.find?_flatMap, hlist]

theorem checkReferences_eq_ok_iff : r.checkReferences = .ok () ↔ r.firstMissing? = none := by
  rw [checkReferences, find?_references]
  cases r.firstMissing? with
  | none => simp
  | some ref => simp

theorem checkReferences_eq_error_iff :
    r.checkReferences = .error ref ↔ r.firstMissing? = some ref := by
  rw [checkReferences, find?_references]
  cases r.firstMissing? with
  | none => simp
  | some ref => simp

theorem firstMissing?_eq_none_iff :
    r.firstMissing? = none ↔ ∀ server ∈ r.servers, ∀ l ∈ nameLists, ∀ name ∈ l.namesIn server,
      name ∈ r.names l.kind := by
  simp only [firstMissing?, List.findSome?_eq_none_iff, missing?_eq_none_iff]

theorem knows_iff {server : Server} :
    r.Knows server ↔ ∀ l ∈ nameLists, ∀ name ∈ l.namesIn server, name ∈ r.names l.kind := by
  simp only [nameLists, List.forall_mem_cons, List.not_mem_nil, false_imp_iff, implies_true,
    and_true, names, List.mem_map]
  constructor
  · exact fun h ↦ ⟨h.sshKeys, h.services, h.volumes⟩
  · rintro ⟨hkeys, hservices, hvolumes⟩
    exact ⟨hkeys, hservices, hvolumes⟩

/-- What the search finds has its place before all else that it could find. -/
theorem exists_danglesFirst_of_firstMissing? (h : r.firstMissing? = some ref) :
    ∃ p, r.DanglesFirst p ref := by
  obtain ⟨i, server, hserver, h, hservers⟩ := exists_getElem?_of_findSome? h
  obtain ⟨j, l, hl, h, hlists⟩ := exists_getElem?_of_findSome? h
  obtain ⟨k, name, hname, h, hnames⟩ := exists_getElem?_of_findSome? h
  obtain ⟨rfl, hmissing⟩ := missing?_eq_some_iff.mp h
  refine ⟨⟨i, j, k⟩, ⟨reference?_eq_some_iff.mpr ⟨server, l, name, hserver, hl, hname, rfl⟩,
    hmissing⟩, ?_⟩
  rintro ⟨i', j', k'⟩ hbefore other ⟨hother, hdangles⟩
  obtain ⟨server', l', name', hserver', hl', hname', rfl⟩ := reference?_eq_some_iff.mp hother
  dsimp only at hserver' hl' hname'
  -- It would stand in an earlier server, in an earlier list of this one, or earlier in this list.
  rcases hbefore with hi | ⟨rfl, hj | ⟨rfl, hk⟩⟩
  · have hnone := List.findSome?_eq_none_iff.mp (hservers i' hi server' hserver') l'
      (List.mem_of_getElem? hl')
    have hnone := List.findSome?_eq_none_iff.mp hnone name' (List.mem_of_getElem? hname')
    exact hdangles (missing?_eq_none_iff.mp hnone)
  · obtain rfl := Option.some.inj (hserver.symm.trans hserver')
    have hnone := List.findSome?_eq_none_iff.mp (hlists j' hj l' hl') name'
      (List.mem_of_getElem? hname')
    exact hdangles (missing?_eq_none_iff.mp hnone)
  · obtain rfl := Option.some.inj (hserver.symm.trans hserver')
    obtain rfl := Option.some.inj (hl.symm.trans hl')
    exact hdangles (missing?_eq_none_iff.mp (hnames k' hk name' hname'))

/-- There is one first place, and one reference at it. -/
theorem DanglesFirst.unique (hp : r.DanglesFirst p ref) (hq : r.DanglesFirst q other) :
    ref = other := by
  rcases Place.before_trichotomy p q with hbefore | rfl | hbefore
  · exact absurd hp.dangles (hq.first p hbefore ref)
  · exact Option.some.inj (hp.dangles.1.symm.trans hq.dangles.1)
  · exact absurd hq.dangles (hp.first q hbefore other)

theorem not_danglesAt_of_firstMissing?_eq_none (h : r.firstMissing? = none) :
    ¬r.DanglesAt p ref := by
  rintro ⟨href, hdangles⟩
  obtain ⟨server, l, name, hserver, hl, hname, rfl⟩ := reference?_eq_some_iff.mp href
  exact hdangles <| firstMissing?_eq_none_iff.mp h server (List.mem_of_getElem? hserver) l
    (List.mem_of_getElem? hl) name (List.mem_of_getElem? hname)

theorem firstMissing?_eq_some_iff : r.firstMissing? = some ref ↔ ∃ p, r.DanglesFirst p ref := by
  refine ⟨exists_danglesFirst_of_firstMissing?, ?_⟩
  rintro ⟨p, hp⟩
  cases hfound : r.firstMissing? with
  | none => exact absurd hp.dangles (not_danglesAt_of_firstMissing?_eq_none hfound)
  | some found =>
    obtain ⟨q, hq⟩ := exists_danglesFirst_of_firstMissing? hfound
    rw [hp.unique hq]

/-- In a registry that passes, every server has its names known. -/
theorem checkReferences_eq_ok_iff_knows :
    r.checkReferences = .ok () ↔ ∀ server ∈ r.servers, r.Knows server := by
  simp only [checkReferences_eq_ok_iff, firstMissing?_eq_none_iff, knows_iff]

theorem resolvesExactly (r : Registry) : r.ResolvesExactly where
  ok_iff := checkReferences_eq_ok_iff_knows
  error_iff _ := checkReferences_eq_error_iff.trans firstMissing?_eq_some_iff
  keysOf h server hserver :=
    forall₂_filterMap_find? (checkReferences_eq_ok_iff_knows.mp h server hserver).sshKeys
  servicesOf h server hserver :=
    forall₂_filterMap_find? (checkReferences_eq_ok_iff_knows.mp h server hserver).services

end Registry

end ClusterPlan
