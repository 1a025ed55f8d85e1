import ClusterPlan.Proofs.Outcomes
import ClusterPlan.Proofs.Sequence

/-!
# What a success determines

The answers to calls may differ from one time to another. An activity that has succeeded determines
one that is made of the same parts, as far as the calls that it has made are answered as they were:
what was not called does not matter, and all parts of what has succeeded have succeeded themselves.
-/

namespace ClusterPlan.Activity

variable {κ κ' ε ε' α β : Type}

/-- If the first activity succeeds, by calls of a kind alone, then the second is the same. -/
def Determines (q : κ → Prop) (x y : Activity κ ε α) : Prop :=
  (∃ a, x.result = .ok a) → x.CallsOnly q → y = x

section Determines

variable {q : κ → Prop} {x y : Activity κ ε α}

theorem determines_refl (x : Activity κ ε α) : x.Determines q x := fun _ _ ↦ rfl

theorem Determines.mapError (h : x.Determines q y) (f : ε → ε') :
    (x.mapError f).Determines q (y.mapError f) := by
  rintro ⟨a, ha⟩ hcalls
  rw [h ⟨a, Except.mapError_eq_ok_iff.mp ha⟩ hcalls]

/-- What is not recorded must have been of the kind all the same. -/
theorem Determines.unrecorded (h : x.Determines q y) (hcalls : x.CallsOnly q) (q' : κ' → Prop) :
    (x.unrecorded : Activity κ' ε α).Determines q' y.unrecorded := by
  rintro hresult -
  rw [h hresult hcalls]

/-! ### Chains -/

theorem callsOnly_andThen_iff {a : α} (h : x.result = .ok a) {next : α → Activity κ ε β} :
    (x.andThen next).CallsOnly q ↔ x.CallsOnly q ∧ (next a).CallsOnly q := by
  unfold Activity.andThen
  rw [h]
  unfold CallsOnly
  simp only [List.forall_mem_append, later, List.forall_mem_map]

theorem Determines.andThen {next next' : α → Activity κ ε β} (h : x.Determines q y)
    (hnext : ∀ a, x.result = .ok a → (next a).Determines q (next' a)) :
    (x.andThen next).Determines q (y.andThen next') := by
  rintro ⟨b, hb⟩ hcalls
  rw [result_andThen, Except.bind_eq_ok_iff] at hb
  obtain ⟨a, ha, hb⟩ := hb
  obtain ⟨hfirst, hsecond⟩ := (callsOnly_andThen_iff ha).mp hcalls
  rw [h ⟨a, ha⟩ hfirst]
  unfold Activity.andThen
  rw [ha]
  dsimp only
  rw [hnext a ha ⟨b, hb⟩ hsecond]

/-! ### Joins -/

variable {xs ys : List (Activity κ ε α)} {values : List α}

theorem exists_ok_of_join (h : (join xs).result = .ok values) :
    ∀ x ∈ xs, ∃ a, x.result = .ok a := by
  intro x hx
  rw [result_join_eq_ok_iff, mapM_eq_ok_iff] at h
  obtain ⟨a, -, ha⟩ := exists_right_of_forall₂ h hx
  exact ⟨a, ha⟩

theorem callsOnly_of_join (h : (join xs).result = .ok values) (hcalls : (join xs).CallsOnly q) :
    ∀ x ∈ xs, x.CallsOnly q := by
  intro x hx call hcall
  apply hcalls call
  rw [result_join] at h
  unfold join
  cases hending : ending? xs with
  | none => exact mem_inTime.mpr (List.mem_flatMap.mpr ⟨x, hx, hcall⟩)
  | some f =>
    rw [hending] at h
    cases h

theorem eq_of_join (hmembers : List.Forall₂ (Determines q) xs ys)
    (hresult : (join xs).result = .ok values) (hcalls : (join xs).CallsOnly q) : ys = xs := by
  have hok := exists_ok_of_join hresult
  have honly := callsOnly_of_join hresult hcalls
  clear hresult hcalls
  induction hmembers with
  | nil => rfl
  | cons hmember _ ih =>
    obtain ⟨hfirst, hrest⟩ := List.forall_mem_cons.mp hok
    obtain ⟨hfirst', hrest'⟩ := List.forall_mem_cons.mp honly
    rw [hmember hfirst hfirst', ih hrest hrest']

theorem determines_join (h : List.Forall₂ (Determines q) xs ys) :
    (join xs).Determines q (join ys) := by
  rintro ⟨values, hvalues⟩ hcalls
  rw [eq_of_join h hvalues hcalls]

theorem determines_join_map {γ : Type} {f g : γ → Activity κ ε α} {cs : List γ}
    (h : ∀ c ∈ cs, (f c).Determines q (g c)) :
    (join (cs.map f)).Determines q (join (cs.map g)) := by
  apply determines_join
  rw [List.forall₂_map_left_iff, List.forall₂_map_right_iff, List.forall₂_same]
  exact h

theorem determines_joinThree {x' y' z z' : Activity κ ε α} (hx : x.Determines q x')
    (hy : y.Determines q y') (hz : z.Determines q z') :
    (joinThree x y z).Determines q (joinThree x' y' z') := by
  rintro ⟨values, hvalues⟩ hcalls
  have hjoined : (join [x, y, z]).result = .ok (successes [x, y, z]) := by
    rw [result_join]
    unfold joinThree at hvalues
    cases hending : ending? [x, y, z] with
    | none => rfl
    | some f =>
      rw [hending] at hvalues
      cases hvalues
  have hmembers : List.Forall₂ (Determines q) [x, y, z] [x', y', z'] :=
    .cons hx (.cons hy (.cons hz .nil))
  have hsame := eq_of_join hmembers hjoined hcalls
  simp only [List.cons.injEq, and_true] at hsame
  obtain ⟨rfl, rfl, rfl⟩ := hsame
  rfl

end Determines

end ClusterPlan.Activity
