import ClusterPlan.Proofs.Decimal
import ClusterPlan.Proofs.Deployment.Checks
import Mathlib.Order.Bounds.Basic

/-!
# Ports that are bound twice

A server is refused exactly when two ports of its images bind the same number, whether both are of
one image or not. The refusal names the least such number, and each image as often as it binds it.
For this the ports must be in plain digits: what is not the text of a number binds none, and with
zeros in front one number would have several texts.
-/

namespace ClusterPlan.Deployment

/-- Every port of every image, in the order of the deployment. -/
def entries (d : Deployment) : List (Image × Proxy.Port) :=
  d.images.flatMap fun i ↦ i.ports.map (i.image, ·)

/-- The names of the images that bind a number, one for each entry that binds it. -/
def binders (d : Deployment) (n : Nat) : List String :=
  (d.entries.filter (·.2.bound? = some (toString n))).map (·.1.name)

/-- Two entries bind the number. -/
def IsShared (d : Deployment) (n : Nat) : Prop := 1 < (d.binders n).length

/-- What is bound on the server is a port number in plain digits. -/
def HasPlainPorts (d : Deployment) : Prop :=
  ∀ e ∈ d.entries, ∀ text, e.2.bound? = some text → ∃ n ≤ Proxy.Port.limit, text = toString n

/-- The check of the ports finds all that is shared, and tells of the least. -/
structure FindsShared (d : Deployment) : Prop where
  succeeds_iff : d.checkHostPorts = .ok () ↔ ∀ n, ¬d.IsShared n
  fails_iff : ∀ e, d.checkHostPorts = .error e ↔
    ∃ n, IsLeast {n | d.IsShared n} n ∧ e = .portConflict d.server (toString n) (d.binders n)

variable {d : Deployment}

theorem boundNumber?_eq_some_iff {p : Proxy.Port}
    (h : ∀ text, p.bound? = some text → ∃ n ≤ Proxy.Port.limit, text = toString n) {n : Nat} :
    boundNumber? p = some n ↔ p.bound? = some (toString n) := by
  unfold boundNumber?
  cases hbound : p.bound? with
  | none => simp
  | some text =>
    obtain ⟨m, hm, rfl⟩ := h text hbound
    rw [Option.bind_some, portNumber?, Decimal.readBounded?_toString hm, Option.some.injEq,
      Option.some.injEq]
    exact ⟨congrArg toString, Decimal.eq_of_toString_eq⟩

/-- The bindings of a number are the entries that bind it. -/
theorem valuesOf_bindings (h : d.HasPlainPorts) (n : Nat) :
    valuesOf n d.bindings = d.binders n := by
  have himage : ∀ i ∈ d.images,
      valuesOf n (i.ports.filterMap fun p ↦ (boundNumber? p).map (·, i.image.name)) =
        ((i.ports.map (i.image, ·)).filter (·.2.bound? = some (toString n))).map (·.1.name) := by
    intro i hi
    rw [valuesOf, List.filter_filterMap, List.map_filterMap, List.filter_map, List.map_map,
      ← List.filterMap_eq_map, List.filterMap_filter]
    refine List.filterMap_congr fun p hp ↦ ?_
    have hplain := h (i.image, p) (List.mem_flatMap.mpr ⟨i, hi, List.mem_map_of_mem hp⟩)
    have hiff := boundNumber?_eq_some_iff hplain (n := n)
    cases hnumber : boundNumber? p with
    | none => simp_all
    | some m => simp_all [Option.filter]
  rw [valuesOf, bindings, binders, entries, List.filter_flatMap, List.map_flatMap,
    List.filter_flatMap, List.map_flatMap]
  exact List.flatMap_congr himage

/-- The group that the check looks for is that of the least shared number. -/
theorem firstShared?_bindings_eq_some_iff (h : d.HasPlainPorts) {n : Nat} {names : List String} :
    firstShared? (groups (fun a b ↦ a < b) d.bindings) = some (n, names) ↔
      names = d.binders n ∧ IsLeast {n | d.IsShared n} n := by
  rw [firstShared?_groups_eq_some_iff isStrict_nat]
  simp only [valuesOf_bindings h, decide_eq_true_eq]
  constructor
  · rintro ⟨rfl, hshared, hleast⟩
    refine ⟨rfl, hshared, fun k hk ↦ ?_⟩
    rcases hleast k hk with rfl | hlt
    · exact Nat.le_refl k
    · exact Nat.le_of_lt hlt
  · rintro ⟨rfl, hshared, hleast⟩
    exact ⟨rfl, hshared, fun k hk ↦ (Nat.eq_or_lt_of_le (hleast hk)).imp_left Eq.symm⟩

theorem findsShared_of_hasPlainPorts (h : d.HasPlainPorts) : d.FindsShared where
  succeeds_iff := by
    rw [checkHostPorts_eq_ok_iff, List.nodup_iff_count_le_one]
    refine forall_congr' fun n ↦ ?_
    rw [count_eq_length_valuesOf, valuesOf_bindings h]
    exact Nat.not_lt.symm
  fails_iff e := by
    have hiff {n names} := @firstShared?_bindings_eq_some_iff d h n names
    unfold checkHostPorts
    split
    next n names hfound =>
      obtain ⟨rfl, hleast⟩ := hiff.mp hfound
      constructor
      · rintro ⟨⟩
        exact ⟨n, hleast, rfl⟩
      · rintro ⟨m, hm, rfl⟩
        rw [hleast.unique hm]
    next hnone =>
      constructor
      · nofun
      · rintro ⟨n, hn, -⟩
        cases hnone.symm.trans (hiff.mpr ⟨rfl, hn⟩)

/-! ### Two shared numbers -/

/-- One image binds a number twice, and shares another with the image before it. -/
def crowded : Deployment :=
  ⟨"web-1", none,
    [⟨⟨"api", ⟨"ghcr.io", "shop", "api", "v1"⟩⟩,
        [⟨some "80", some "9000", "8080", false, []⟩, ⟨some "81", none, "9000", false, []⟩],
        [], []⟩,
      ⟨⟨"web", ⟨"ghcr.io", "shop", "web", "v1"⟩⟩,
        [⟨some "443", none, "8443", true, []⟩, ⟨some "444", some "443", "8444", false, []⟩,
          ⟨some "82", some "9000", "3000", false, []⟩], [], []⟩]⟩

theorem findsShared_crowded :
    crowded.HasPlainPorts ∧ crowded.FindsShared ∧
      crowded.checkHostPorts =
        .error (.portConflict "web-1" "443" ["web-shop-web-v1", "web-shop-web-v1"]) := by
  have hbound : ∀ e ∈ crowded.entries, e.2.bound? = none ∨
      e.2.bound? = some (toString 443) ∨ e.2.bound? = some (toString 9000) := by
    decide
  have hplain : crowded.HasPlainPorts := by
    intro e he text htext
    rcases hbound e he with hnone | hdirect | hhost
    · cases hnone.symm.trans htext
    · exact ⟨443, by decide, Option.some.inj (htext.symm.trans hdirect)⟩
    · exact ⟨9000, by decide, Option.some.inj (htext.symm.trans hhost)⟩
  exact ⟨hplain, findsShared_of_hasPlainPorts hplain, rfl⟩

end ClusterPlan.Deployment
