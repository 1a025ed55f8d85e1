import ClusterPlan.Deployment.Checks
import ClusterPlan.Proofs.Proxy.ListenPorts
import Mathlib.Data.List.Count
import Mathlib.Data.List.Nodup
import Mathlib.Data.List.Pairwise

/-!
# What the checks of a deployment find

Values are collected in groups, one for each key and in the order of the keys, so that a group of
several members is there exactly when a key occurs twice. With that the checks of a server say what
they are meant to say: no two of its images have the same name, no two ports of its images bind the
same number, and none of them binds a number that the proxy listens on.
-/

namespace ClusterPlan.Deployment

/-! ### Groups -/

section Groups

variable {κ α : Type} {before : κ → κ → Bool}

/-- An order in which different keys have different places. -/
structure IsStrict (before : κ → κ → Bool) : Prop where
  irrefl : ∀ a, ¬before a a
  trans : ∀ a b c, before a b → before b c → before a c
  total : ∀ a b, a ≠ b → ¬before a b → before b a

theorem isStrict_nat : IsStrict fun a b : Nat ↦ a < b where
  irrefl a := by simp
  trans a b c := by simpa using Nat.lt_trans
  total a b := by
    simp only [decide_eq_true_eq]
    omega

theorem isStrict_string : IsStrict fun a b : String ↦ a < b where
  irrefl a := by simp
  trans a b c := by
    simp only [decide_eq_true_eq]
    exact String.lt_trans
  total a b := by
    simp only [decide_eq_true_eq]
    intro hne hnot
    exact Std.lt_of_le_of_ne (String.not_lt.mp hnot) hne.symm

abbrev Sorted (before : κ → κ → Bool) (groups : List (κ × List α)) : Prop :=
  groups.Pairwise fun a b ↦ before a.1 b.1

theorem notMem_keys_of_before (hbefore : IsStrict before) {key : κ} {groups : List (κ × List α)}
    (h : ∀ group ∈ groups, before key group.1) : key ∉ groups.map Prod.fst := by
  intro hkey
  obtain ⟨group, hgroup, rfl⟩ := List.mem_map.mp hkey
  exact hbefore.irrefl _ (h group hgroup)

/-- The key of the first group stands before all others. -/
theorem before_of_sorted_cons (hbefore : IsStrict before) {key : κ} {group : κ × List α}
    {rest : List (κ × List α)} (hsorted : Sorted before (group :: rest))
    (h : before key group.1) : ∀ other ∈ group :: rest, before key other.1 := by
  rintro other (_ | ⟨_, hother⟩)
  · exact h
  · exact hbefore.trans _ _ _ h (List.rel_of_pairwise_cons hsorted hother)

variable [DecidableEq κ]

/-- The group of a key gains a value, a new one if there is none; all others stay. -/
theorem mem_addToGroup (hbefore : IsStrict before) {key : κ} {value : α}
    {groups : List (κ × List α)} (hsorted : Sorted before groups) {k : κ} {values : List α} :
    (k, values) ∈ addToGroup before key value groups ↔
      (k ≠ key ∧ (k, values) ∈ groups) ∨
      (k = key ∧ ∃ old, values = old ++ [value] ∧
        ((key, old) ∈ groups ∨ old = [] ∧ key ∉ groups.map Prod.fst)) := by
  induction groups with
  | nil => simp [addToGroup]
  | cons group rest ih =>
    obtain ⟨first, members⟩ := group
    rw [addToGroup]
    split
    next hsame =>
      -- The group is found, and no later one has its key.
      subst hsame
      have hfresh : first ∉ rest.map Prod.fst :=
        notMem_keys_of_before hbefore fun other hother ↦
          List.rel_of_pairwise_cons hsorted hother
      have hnone (old : List α) : (first, old) ∉ rest :=
        fun hold ↦ hfresh (List.mem_map_of_mem hold)
      by_cases hk : k = first
      · subst hk
        simp [hnone]
      · simp [hk]
    next hother =>
      split
      next hfirst =>
        -- The key stands before all others, so there is no group of it yet.
        have hfresh : key ∉ ((first, members) :: rest).map Prod.fst :=
          notMem_keys_of_before hbefore (before_of_sorted_cons hbefore hsorted hfirst)
        have hnone (old : List α) : (key, old) ∉ (first, members) :: rest :=
          fun hold ↦ hfresh (List.mem_map_of_mem hold)
        by_cases hk : k = key
        · subst hk
          simp only [List.mem_cons, hnone, hfresh]
          simp
        · simp [hk]
      next =>
        rw [List.mem_cons, ih hsorted.of_cons]
        by_cases hk : k = key
        · subst hk
          simp [Ne.symm hother]
        · simp [hk]

theorem sorted_addToGroup (hbefore : IsStrict before) {key : κ} {value : α}
    {groups : List (κ × List α)} (hsorted : Sorted before groups) :
    Sorted before (addToGroup before key value groups) := by
  induction groups with
  | nil => simp [addToGroup, Sorted]
  | cons group rest ih =>
    obtain ⟨first, members⟩ := group
    obtain ⟨hfirst, hrest⟩ := List.pairwise_cons.mp hsorted
    rw [addToGroup]
    split
    next => exact List.pairwise_cons.mpr ⟨hfirst, hrest⟩
    next hother =>
      split
      next hnew =>
        exact List.pairwise_cons.mpr ⟨before_of_sorted_cons hbefore hsorted hnew, hsorted⟩
      next hlater =>
        refine List.pairwise_cons.mpr ⟨?_, ih hrest⟩
        rintro ⟨k, values⟩ hgroup
        rcases (mem_addToGroup hbefore hrest).mp hgroup with ⟨-, hold⟩ | ⟨rfl, -⟩
        · exact hfirst _ hold
        · exact hbefore.total _ _ (Ne.symm hother) hlater

/-- The values of a key, in the order of the pairs. -/
def valuesOf (key : κ) (pairs : List (κ × α)) : List α :=
  (pairs.filter (·.1 = key)).map Prod.snd

/-- One group for each key that occurs, with all of its values. -/
structure Grouped (before : κ → κ → Bool) (pairs : List (κ × α)) (groups : List (κ × List α)) :
    Prop where
  sorted : Sorted before groups
  mem_iff : ∀ key values, (key, values) ∈ groups ↔ values ≠ [] ∧ values = valuesOf key pairs

theorem Grouped.notMem_keys {pairs : List (κ × α)} {groups : List (κ × List α)}
    (h : Grouped before pairs groups) {key : κ} (hnone : valuesOf key pairs = []) :
    key ∉ groups.map Prod.fst := by
  intro hkey
  obtain ⟨⟨_, values⟩, hgroup, rfl⟩ := List.mem_map.mp hkey
  obtain ⟨hne, hvalues⟩ := (h.mem_iff _ _).mp hgroup
  exact hne (hvalues.trans hnone)

theorem Grouped.add (hbefore : IsStrict before) {pairs : List (κ × α)}
    {groups : List (κ × List α)} (h : Grouped before pairs groups) (key : κ) (value : α) :
    Grouped before (pairs ++ [(key, value)]) (addToGroup before key value groups) where
  sorted := sorted_addToGroup hbefore h.sorted
  mem_iff k values := by
    rw [mem_addToGroup hbefore h.sorted]
    by_cases hk : k = key
    · subst hk
      have hvalues : valuesOf k (pairs ++ [(k, value)]) = valuesOf k pairs ++ [value] := by
        simp [valuesOf]
      rw [hvalues]
      constructor
      · rintro (⟨hne, -⟩ | ⟨-, old, rfl, hold | ⟨rfl, hfresh⟩⟩)
        · exact absurd rfl hne
        · exact ⟨by simp, by rw [← ((h.mem_iff _ _).mp hold).2]⟩
        · have hnone : valuesOf k pairs = [] := by
            by_contra hsome
            exact hfresh (List.mem_map_of_mem ((h.mem_iff k _).mpr ⟨hsome, rfl⟩))
          exact ⟨by simp, by rw [hnone]⟩
      · rintro ⟨-, rfl⟩
        refine .inr ⟨rfl, _, rfl, ?_⟩
        by_cases hnone : valuesOf k pairs = []
        · exact .inr ⟨hnone, h.notMem_keys hnone⟩
        · exact .inl ((h.mem_iff _ _).mpr ⟨hnone, rfl⟩)
    · have hvalues : valuesOf k (pairs ++ [(key, value)]) = valuesOf k pairs := by
        simp [valuesOf, Ne.symm hk]
      rw [hvalues, h.mem_iff]
      simp [hk]

theorem grouped_groups (hbefore : IsStrict before) (pairs : List (κ × α)) :
    Grouped before pairs (groups before pairs) := by
  -- By induction on the pairs still to come, for the groups of all that were added before.
  have hfold (done : List (κ × α)) (groups : List (κ × List α)) (h : Grouped before done groups) :
      Grouped before (done ++ pairs)
        (pairs.foldl (fun groups pair ↦ addToGroup before pair.1 pair.2 groups) groups) := by
    induction pairs generalizing done groups with
    | nil => simpa using h
    | cons pair rest ih =>
      have hrest := ih _ _ (h.add hbefore pair.1 pair.2)
      rwa [List.append_assoc] at hrest
  exact hfold [] [] ⟨.nil, by simp [valuesOf]⟩

/-- A key occurs once for each of its values. -/
theorem count_eq_length_valuesOf (key : κ) (pairs : List (κ × α)) :
    (pairs.map Prod.fst).count key = (valuesOf key pairs).length := by
  rw [List.count_eq_countP, List.countP_map, List.countP_eq_length_filter, valuesOf,
    List.length_map]
  rfl

/-- No group is shared when every key occurs at most once. -/
theorem firstShared?_groups_eq_none_iff (hbefore : IsStrict before) {pairs : List (κ × α)} :
    firstShared? (groups before pairs) = none ↔ (pairs.map Prod.fst).Nodup := by
  have hgrouped := grouped_groups hbefore pairs
  rw [List.nodup_iff_count_le_one, firstShared?, List.find?_eq_none]
  constructor
  · intro hsmall key
    rw [count_eq_length_valuesOf]
    by_contra hlarge
    have hne : valuesOf key pairs ≠ [] := by
      intro hnone
      exact hlarge (by simp [hnone])
    exact hsmall _ ((hgrouped.mem_iff key _).mpr ⟨hne, rfl⟩) (by simpa using hlarge)
  · rintro hsmall ⟨key, values⟩ hgroup
    obtain ⟨-, rfl⟩ := (hgrouped.mem_iff key values).mp hgroup
    have hone := hsmall key
    rw [count_eq_length_valuesOf] at hone
    simpa using hone

/-- The first shared group is that of the least key which occurs twice. -/
theorem firstShared?_groups_eq_some_iff (hbefore : IsStrict before) {pairs : List (κ × α)} {key : κ}
    {values : List α} :
    firstShared? (groups before pairs) = some (key, values) ↔
      values = valuesOf key pairs ∧ 1 < values.length ∧
        ∀ k, 1 < (valuesOf k pairs).length → k = key ∨ before key k := by
  have hgrouped := grouped_groups hbefore pairs
  have hmem {k : κ} (hk : 1 < (valuesOf k pairs).length) :
      (k, valuesOf k pairs) ∈ groups before pairs :=
    (hgrouped.mem_iff k _).mpr ⟨List.ne_nil_of_length_pos (Nat.zero_lt_of_lt hk), rfl⟩
  have hleast {key : κ} {values : List α}
      (h : firstShared? (groups before pairs) = some (key, values)) :
      values = valuesOf key pairs ∧ 1 < values.length ∧
        ∀ k, 1 < (valuesOf k pairs).length → k = key ∨ before key k := by
    obtain ⟨hlarge, front, back, hsplit, hfront⟩ := List.find?_eq_some_iff_append.mp h
    have hgroup : (key, values) ∈ groups before pairs := List.mem_of_find?_eq_some h
    refine ⟨((hgrouped.mem_iff key values).mp hgroup).2, by simpa using hlarge, fun k hk ↦ ?_⟩
    have hsorted := hgrouped.sorted
    have hplace := hmem hk
    rw [hsplit] at hsorted hplace
    rcases List.mem_append.mp hplace with hearlier | hlater
    · exact absurd hk (by simpa using hfront _ hearlier)
    · rcases List.mem_cons.mp hlater with hsame | hlater
      · exact .inl (congrArg Prod.fst hsame)
      · exact .inr (List.rel_of_pairwise_cons (List.pairwise_append.mp hsorted).2.1 hlater)
  constructor
  · exact hleast
  · rintro ⟨rfl, hlarge, hfirst⟩
    cases hfound : firstShared? (groups before pairs) with
    | none => exact absurd hlarge (by simpa using List.find?_eq_none.mp hfound _ (hmem hlarge))
    | some found =>
      -- Each of the two keys stands before the other one, unless they are the same.
      obtain ⟨k, others⟩ := found
      obtain ⟨rfl, hothers, hk⟩ := hleast hfound
      rcases hfirst k hothers with rfl | hbefore'
      · rfl
      · rcases hk key hlarge with rfl | hafter
        · rfl
        · exact absurd (hbefore.trans _ _ _ hbefore' hafter) (hbefore.irrefl key)

end Groups

variable {d : Deployment}

/-! ### Images of the server -/

theorem checkImageNames_eq_ok_iff :
    d.checkImageNames = .ok () ↔ (d.images.map (·.image.name)).Nodup := by
  have hnames : d.named.map Prod.fst = d.images.map (·.image.name) := by
    rw [named, List.map_map]
    rfl
  rw [← hnames, ← firstShared?_groups_eq_none_iff isStrict_string, checkImageNames]
  split
  next hshared =>
    rw [hshared]
    simp
  next hnone =>
    rw [hnone]
    simp

/-! ### Ports of the server -/

theorem bindings_numbers :
    d.bindings.map Prod.fst = d.images.flatMap fun i ↦ i.ports.filterMap boundNumber? := by
  have hname (port : Proxy.Port) (name : String) :
      ((boundNumber? port).map (·, name)).map Prod.fst = boundNumber? port := by
    cases boundNumber? port <;> rfl
  simp [bindings, List.map_flatMap, List.map_filterMap, hname]

theorem checkHostPorts_eq_ok_iff :
    d.checkHostPorts = .ok () ↔ (d.bindings.map Prod.fst).Nodup := by
  rw [← firstShared?_groups_eq_none_iff isStrict_nat, checkHostPorts]
  split
  next hshared => simp [hshared]
  next hnone => simp [hnone]

theorem rivals_eq_nil_iff {listen : String} {n : Nat} (hlisten : portNumber? listen = some n) :
    d.rivals listen = [] ↔ ∀ i ∈ d.images, ∀ port ∈ i.ports, boundNumber? port ≠ some n := by
  simp only [rivals, List.map_eq_nil_iff, List.filter_eq_nil_iff, List.any_eq_true, not_exists,
    not_and]
  refine forall₂_congr fun i _ ↦ forall₂_congr fun port _ ↦ not_congr ?_
  rw [hlisten]
  cases boundNumber? port with
  | none => simp
  | some a => simp

theorem checkProxyPorts_eq_ok_iff {plan : Proxy.Plan} :
    d.checkProxyPorts plan = .ok () ↔ ∀ l ∈ plan.listeners, d.rivals l.port = [] := by
  have hfind : (plan.listenPorts.find? fun port ↦ !(d.rivals port).isEmpty) = none ↔
      ∀ l ∈ plan.listeners, d.rivals l.port = [] := by
    rw [List.find?_eq_none]
    simp [Proxy.Plan.mem_listenPorts]
  rw [← hfind, checkProxyPorts]
  split
  next hrival => simp [hrival]
  next hnone => simp [hnone]

/-- A listener on a number leaves that number to the proxy. -/
theorem notMem_bindings_of_checkProxyPorts {plan : Proxy.Plan}
    (h : d.checkProxyPorts plan = .ok ()) {l : Proxy.Listener} (hl : l ∈ plan.listeners)
    {n : Nat} (hlisten : portNumber? l.port = some n) : n ∉ d.bindings.map Prod.fst := by
  have hrivals := checkProxyPorts_eq_ok_iff.mp h l hl
  rw [bindings_numbers]
  intro hn
  obtain ⟨i, hi, hn⟩ := List.mem_flatMap.mp hn
  obtain ⟨port, hport, hbound⟩ := List.mem_filterMap.mp hn
  exact (rivals_eq_nil_iff hlisten).mp hrivals i hi port hport hbound

end ClusterPlan.Deployment
