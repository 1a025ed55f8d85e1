import ClusterPlan.Proofs.Naming
import ClusterPlan.Proofs.Proxy.Served

/-!
# Names of pools

A pool goes by the sanitized name of an image and a container port. As long as that name is not cut
off, the image and the port can be read back from it, and a pool collects the backends of one image
port alone. Names are cut off at the length of a label, though, and the port stands at the end: two
ports share a pool exactly when their labels come out of the cut the same.
-/

namespace ClusterPlan.Proxy

open Naming

/-- A number in decimal digits. -/
structure IsDecimal (text : String) : Prop where
  digits : ∀ c ∈ text.toList, c.isDigit
  ne_nil : text.toList ≠ []

theorem IsDecimal.isPlain {text : String} (h : IsDecimal text) : ∀ c ∈ text.toList, isPlain c :=
  fun c hc ↦ by simp [Naming.isPlain, h.digits c hc]

theorem IsDecimal.isLabel {text : String} (h : IsDecimal text) : IsLabel text.toList :=
  isLabel_of_isPlain h.isPlain

theorem IsDecimal.dash_notMem {text : String} (h : IsDecimal text) : '-' ∉ text.toList :=
  fun hdash ↦ ne_dash_of_isPlain (h.isPlain '-' hdash) rfl

/-- A placement of an image with a sanitized name and with numbers for container ports. -/
structure Placement.IsNamed (p : Placement) : Prop where
  image : ∃ name, p.image = sanitize name
  container : ∀ port ∈ p.ports, IsDecimal port.container

namespace Plan

/-! ### Labels -/

/-- The image and the container port that a pool is meant for. -/
def Served.pair (s : Served) : String × String := (s.placement.image, s.port.container)

/-- The image and the container port with a dash between them; the port alone where the image has
no name. -/
def Served.label (s : Served) : List Char :=
  if s.placement.image = "" then s.port.container.toList
  else s.placement.image.toList ++ '-' :: s.port.container.toList

/-- A served port of an image with a sanitized name. -/
structure Served.IsNamed (s : Served) : Prop where
  image : IsLabel s.placement.image.toList
  container : IsDecimal s.port.container

theorem isNamed_of_mem_served {server : String} {placements : List Placement}
    (h : ∀ p ∈ placements, p.IsNamed) {s : Served} (hs : s ∈ served server placements) :
    s.IsNamed := by
  obtain ⟨hplacement, -, hport, -, -⟩ := mem_served.mp hs
  obtain ⟨name, hname⟩ := (h _ hplacement).image
  exact ⟨hname ▸ isLabel_sanitize name, (h _ hplacement).container _ hport⟩

theorem Served.isLabel_label {s : Served} (h : s.IsNamed) : IsLabel s.label := by
  unfold Served.label
  split
  next => exact h.container.isLabel
  next himage => exact h.image.join h.container.isLabel (by simpa using himage) h.container.ne_nil

/-- Nothing happens to a label before it is cut. -/
theorem Served.toList_poolName {s : Served} (h : s.IsNamed) : s.poolName.toList = cut s.label := by
  have hlabel := Served.isLabel_label h
  have htext : (s.placement.image ++ "-" ++ s.port.container).toList =
      s.placement.image.toList ++ '-' :: s.port.container.toList := by simp
  have hdash : Collapsed ('-' :: s.port.container.toList) :=
    (Collapsed.singleton (.inr rfl)).append h.container.isLabel.toCollapsed
      (.inr h.container.isLabel.head)
  have hcollapsed : Collapsed (s.placement.image ++ "-" ++ s.port.container).toList :=
    htext ▸ h.image.toCollapsed.append hdash (.inl h.image.last)
  have htrimmed : dropDashes (s.placement.image ++ "-" ++ s.port.container).toList = s.label := by
    rw [htext]
    unfold Served.label
    split
    next himage =>
      rw [himage]
      exact dropDashes_eq_self h.container.isLabel.head
    next himage =>
      apply dropDashes_eq_self
      rw [List.head?_append_of_ne_nil _ (by simpa using himage)]
      exact h.image.head
  rw [Served.poolName, toList_sanitize_of_collapsed hcollapsed, htrimmed,
    dropEndDashes_eq_self hlabel.last]

/-- What follows the last dash of a text is known, and so is what comes before it. -/
theorem append_dash_inj {image image' port port' : List Char} (hport : '-' ∉ port)
    (hport' : '-' ∉ port') (h : image ++ '-' :: port = image' ++ '-' :: port') :
    image = image' ∧ port = port' := by
  have hlast (i p : List Char) (hp : '-' ∉ p) :
      (i ++ '-' :: p).reverse.takeWhile (· != '-') = p.reverse := by
    have hdigits : ∀ c ∈ p.reverse, (c != '-') = true := by
      intro c hc
      simpa using ne_of_mem_of_not_mem (List.mem_reverse.mp hc) hp
    rw [List.reverse_append, List.reverse_cons, List.append_assoc, List.singleton_append,
      List.takeWhile_append_of_pos hdigits]
    simp
  have hsame : port = port' := by
    apply List.reverse_injective
    rw [← hlast image port hport, ← hlast image' port' hport', h]
  subst hsame
  exact ⟨List.append_cancel_right h, rfl⟩

theorem Served.pair_eq_of_label_eq {s t : Served} (hs : s.IsNamed) (ht : t.IsNamed)
    (h : s.label = t.label) : s.pair = t.pair := by
  unfold Served.label at h
  unfold Served.pair
  split at h
  next himage =>
    split at h
    next himage' => rw [himage, himage', String.toList_inj.mp h]
    next => exact absurd (h ▸ by simp) hs.container.dash_notMem
  next =>
    split at h
    next => exact absurd (h ▸ by simp) ht.container.dash_notMem
    next =>
      obtain ⟨himage, hport⟩ :=
        append_dash_inj hs.container.dash_notMem ht.container.dash_notMem h
      rw [String.toList_inj.mp himage, String.toList_inj.mp hport]

/-! ### Pools of several ports -/

/-- Two labels come out of the cut the same, and at least one of them is cut. -/
def Served.Clashes (s t : Served) : Prop :=
  (labelLimit < s.label.length ∨ labelLimit < t.label.length) ∧ cut s.label = cut t.label

theorem Served.label_eq_of_pair_eq {s t : Served} (h : s.pair = t.pair) : s.label = t.label := by
  obtain ⟨himage, hport⟩ := Prod.mk.inj h
  rw [Served.label, Served.label, himage, hport]

theorem Served.poolName_eq_iff {s t : Served} (hs : s.IsNamed) (ht : t.IsNamed) :
    s.poolName = t.poolName ↔ s.pair = t.pair ∨ s.Clashes t := by
  rw [← String.toList_inj, Served.toList_poolName hs, Served.toList_poolName ht]
  constructor
  · intro hcut
    by_cases hlong : labelLimit < s.label.length ∨ labelLimit < t.label.length
    · exact .inr ⟨hlong, hcut⟩
    · push Not at hlong
      rw [cut_of_length_le (isLabel_label hs) hlong.1,
        cut_of_length_le (isLabel_label ht) hlong.2] at hcut
      exact .inl (pair_eq_of_label_eq hs ht hcut)
  · rintro (hpair | hclash)
    · rw [label_eq_of_pair_eq hpair]
    · exact hclash.2

/-- Each image port of a server has a pool of its own, which collects its backends and no others. -/
structure PoolsApart (server : String) (placements : List Placement) (out : Plan) : Prop where
  names : ∀ s ∈ served server placements, ∀ t ∈ served server placements,
    s.pair ≠ t.pair → s.poolName ≠ t.poolName
  backends : ∀ pool ∈ out.pools, ∃ pair, ∀ b, b ∈ pool.backends ↔
    ∃ s ∈ served server placements, s.pair = pair ∧ b ∈ s.backends placements

/-- Pools are apart exactly when no two different image ports of the server clash. -/
theorem poolsApart_iff {options : PlanOptions} {server : String} {placements : List Placement}
    {out : Plan} (hnamed : ∀ p ∈ placements, p.IsNamed)
    (hplan : plan options server placements = .ok out) :
    PoolsApart server placements out ↔
      ∀ s ∈ served server placements, ∀ t ∈ served server placements,
        s.pair ≠ t.pair → ¬s.Clashes t := by
  obtain ⟨-, rfl⟩ := plan_eq_ok_iff.mp hplan
  have hname (s : Served) (hs : s ∈ served server placements) (t : Served)
      (ht : t ∈ served server placements) :
      s.poolName = t.poolName ↔ s.pair = t.pair ∨ s.Clashes t :=
    Served.poolName_eq_iff (isNamed_of_mem_served hnamed hs) (isNamed_of_mem_served hnamed ht)
  constructor
  · rintro ⟨hapart, -⟩ s hs t ht hpair hclash
    exact hapart s hs t ht hpair ((hname s hs t ht).mpr (.inr hclash))
  · intro hclear
    have hapart : ∀ s ∈ served server placements, ∀ t ∈ served server placements,
        s.poolName = t.poolName ↔ s.pair = t.pair := by
      intro s hs t ht
      rw [hname s hs t ht]
      constructor
      · rintro (hpair | hclash)
        · exact hpair
        · by_contra hpair
          exact hclear s hs t ht hpair hclash
      · exact .inl
    refine ⟨fun s hs t ht hpair hsame ↦ hpair ((hapart s hs t ht).mp hsame), ?_⟩
    intro pool hpool
    obtain ⟨⟨s, hs, hpoolname⟩, -, -⟩ := (mem_pools_ofServed _ _ _).mp hpool
    refine ⟨s.pair, fun b ↦ ?_⟩
    rw [mem_backends_of_mem_pools _ _ _ hpool]
    constructor
    · rintro ⟨t, ht, htname, hb⟩
      exact ⟨t, ht, (hapart t ht s hs).mp (htname.trans hpoolname.symm), hb⟩
    · rintro ⟨t, ht, hpair, hb⟩
      exact ⟨t, ht, ((hapart t ht s hs).mpr hpair).trans hpoolname, hb⟩

/-- An image with two ports, and with a name that leaves no room for them. -/
def longNamed : List Placement :=
  [⟨"web-1", some "10.0.0.1", "shop-org-storefront-with-a-very-long-repository-name-release-20",
    [⟨some "80", none, "8080", false, []⟩, ⟨some "81", none, "9090", false, []⟩]⟩]

def longNamedPlan : Plan :=
  let name := "shop-org-storefront-with-a-very-long-repository-name-release-20"
  ⟨"web-1", [⟨name, .leastConn, [⟨name, "8080"⟩, ⟨name, "9090"⟩]⟩],
    [⟨"_", "80", [⟨"/", name⟩]⟩, ⟨"_", "81", [⟨"/", name⟩]⟩]⟩

/-- Requests for one port are sent to the other as well. -/
theorem not_poolsApart_longNamed :
    (∀ p ∈ longNamed, p.IsNamed) ∧
      plan ⟨.leastConn, false⟩ "web-1" longNamed = .ok longNamedPlan ∧
      ¬PoolsApart "web-1" longNamed longNamedPlan := by
  have hnamed : ∀ p ∈ longNamed, p.IsNamed := by
    rintro p (_ | ⟨_, hp⟩)
    · refine ⟨⟨"shop-org-storefront-with-a-very-long-repository-name-release-20", ?_⟩, ?_⟩
      · decide +kernel
      rintro port (_ | ⟨_, _ | ⟨_, hport⟩⟩)
      · exact ⟨List.all_eq_true.mp rfl, by decide⟩
      · exact ⟨List.all_eq_true.mp rfl, by decide⟩
      · exact absurd hport List.not_mem_nil
    · exact absurd hp List.not_mem_nil
  have hplan : plan ⟨.leastConn, false⟩ "web-1" longNamed = .ok longNamedPlan := by
    decide +kernel
  refine ⟨hnamed, hplan, fun hapart ↦ ?_⟩
  have hclear := (poolsApart_iff hnamed hplan).mp hapart
  have hserved : served "web-1" longNamed =
      [⟨_, ⟨some "80", none, "8080", false, []⟩, "80"⟩,
        ⟨_, ⟨some "81", none, "9090", false, []⟩, "81"⟩] := rfl
  rw [hserved] at hclear
  exact hclear _ (.head _) _ (.tail _ (.head _)) (by decide) ⟨.inl (by decide), by decide⟩

end Plan

end ClusterPlan.Proxy
