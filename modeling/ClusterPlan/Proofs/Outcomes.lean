import ClusterPlan.Proofs.Activity
import ClusterPlan.Proofs.Except

/-!
# What activities fail by and what they call

The errors that an activity can end in, and the calls that it can make, are those of its parts:
chains and joins add none of their own.
-/

namespace ClusterPlan.Activity

variable {κ κ' ε ε' α β : Type}

/-- Whatever error the activity ends in has a property. -/
def FailsBy (p : ε → Prop) (x : Activity κ ε α) : Prop := ∀ e, x.result = .error e → p e

/-- All calls that the activity makes have a property. -/
def CallsOnly (q : κ → Prop) (x : Activity κ ε α) : Prop := ∀ call ∈ x.calls, q call.2

/-! ### Failures -/

section FailsBy

variable {p : ε → Prop} {x : Activity κ ε α}

theorem failsBy_pure (a : α) : (pure a : Activity κ ε α).FailsBy p := nofun

theorem failsBy_fail {e : ε} (h : p e) : (fail e : Activity κ ε α).FailsBy p := by
  intro e' he'
  obtain rfl := Except.error.inj he'
  exact h

theorem FailsBy.mono {q : ε → Prop} (h : x.FailsBy p) (hpq : ∀ e, p e → q e) : x.FailsBy q :=
  fun e he ↦ hpq e (h e he)

theorem failsBy_mapError {f : ε → ε'} {q : ε' → Prop} (h : ∀ e, q (f e)) :
    (x.mapError f).FailsBy q := by
  intro e' he'
  obtain ⟨e, -, rfl⟩ := Except.mapError_eq_error_iff.mp he'
  exact h e

theorem FailsBy.andThen {next : α → Activity κ ε β} (hx : x.FailsBy p)
    (hnext : ∀ a, x.result = .ok a → (next a).FailsBy p) : (x.andThen next).FailsBy p := by
  intro e he
  rcases result_andThen_eq_error_iff.mp he with he | ⟨a, ha, he⟩
  · exact hx e he
  · exact hnext a ha e he

theorem failsBy_join {members : List (Activity κ ε α)} (h : ∀ x ∈ members, x.FailsBy p) :
    (join members).FailsBy p := by
  intro e he
  obtain ⟨x, hx, hresult⟩ := exists_of_result_join_eq_error he
  exact h x hx e hresult

theorem failsBy_joinThree {y z : Activity κ ε α} (hx : x.FailsBy p) (hy : y.FailsBy p)
    (hz : z.FailsBy p) : (joinThree x y z).FailsBy p := by
  have hmembers : ∀ member ∈ [x, y, z], member.FailsBy p := by
    simp [hx, hy, hz]
  intro e he
  unfold joinThree at he
  cases hending : ending? [x, y, z] with
  | some f =>
    obtain ⟨member, hmember, hresult⟩ := exists_of_ending? hending
    rw [hending] at he
    obtain rfl := Except.error.inj he
    exact hmembers member hmember _ hresult
  | none =>
    rw [hending] at he
    rcases Except.bind_eq_error_iff.mp he with he | ⟨a, -, he⟩
    · exact hx e he
    · rcases Except.bind_eq_error_iff.mp he with he | ⟨b, -, he⟩
      · exact hy e he
      · rcases Except.bind_eq_error_iff.mp he with he | ⟨c, -, he⟩
        · exact hz e he
        · cases he

/-- What a join of three gives is what each of them gives. -/
theorem results_of_joinThree {y z : Activity κ ε α} {values : α × α × α}
    (h : (joinThree x y z).result = .ok values) :
    x.result = .ok values.1 ∧ y.result = .ok values.2.1 ∧ z.result = .ok values.2.2 := by
  unfold joinThree at h
  cases hending : ending? [x, y, z] with
  | some f =>
    rw [hending] at h
    cases h
  | none =>
    rw [hending] at h
    obtain ⟨a, ha, h⟩ := Except.bind_eq_ok_iff.mp h
    obtain ⟨b, hb, h⟩ := Except.bind_eq_ok_iff.mp h
    obtain ⟨c, hc, h⟩ := Except.bind_eq_ok_iff.mp h
    cases h
    exact ⟨ha, hb, hc⟩

end FailsBy

/-! ### Calls -/

section CallsOnly

variable {q : κ → Prop} {x : Activity κ ε α}

theorem callsOnly_of_calls_eq_nil (h : x.calls = []) : x.CallsOnly q := by
  intro call hcall
  rw [h] at hcall
  cases hcall

theorem callsOnly_pure (a : α) : (pure a : Activity κ ε α).CallsOnly q :=
  callsOnly_of_calls_eq_nil rfl

theorem callsOnly_fail (e : ε) : (fail e : Activity κ ε α).CallsOnly q :=
  callsOnly_of_calls_eq_nil rfl

theorem callsOnly_ofExcept (result : Except ε α) : (ofExcept result : Activity κ ε α).CallsOnly q :=
  callsOnly_of_calls_eq_nil rfl

theorem callsOnly_call {c : κ} (h : q c) (waits : Nat) (result : Except ε α) :
    (call c waits result).CallsOnly q := by
  intro made hmade
  rw [List.mem_singleton.mp hmade]
  exact h

theorem CallsOnly.mapError (h : x.CallsOnly q) (f : ε → ε') : (x.mapError f).CallsOnly q := h

theorem CallsOnly.andThen {next : α → Activity κ ε β} (hx : x.CallsOnly q)
    (hnext : ∀ a, (next a).CallsOnly q) : (x.andThen next).CallsOnly q := by
  unfold Activity.andThen
  cases x.result with
  | error e => exact hx
  | ok a =>
    intro call hcall
    rcases List.mem_append.mp hcall with hcall | hcall
    · exact hx call hcall
    · obtain ⟨later, hlater, rfl⟩ := List.mem_map.mp hcall
      exact hnext a later hlater

theorem callsOnly_join {members : List (Activity κ ε α)} (h : ∀ x ∈ members, x.CallsOnly q) :
    (join members).CallsOnly q := by
  unfold join
  cases ending? members with
  | none =>
    intro call hcall
    obtain ⟨x, hx, hcall⟩ := List.mem_flatMap.mp (mem_inTime.mp hcall)
    exact h x hx call hcall
  | some f =>
    intro call hcall
    obtain ⟨⟨x, place⟩, hx, hcall⟩ := List.mem_flatMap.mp (mem_inTime.mp hcall)
    exact h x (List.fst_mem_of_mem_zipIdx hx) call (List.mem_filter.mp hcall).1

theorem callsOnly_joinThree {y z : Activity κ ε α} (hx : x.CallsOnly q) (hy : y.CallsOnly q)
    (hz : z.CallsOnly q) : (joinThree x y z).CallsOnly q := by
  have hmembers : (join [x, y, z]).CallsOnly q := by
    apply callsOnly_join
    simp [hx, hy, hz]
  exact hmembers

theorem CallsOnly.of_mem_log (h : x.CallsOnly q) {c : κ} (hc : c ∈ x.log) : q c := by
  obtain ⟨call, hcall, rfl⟩ := List.mem_map.mp hc
  exact h call hcall

end CallsOnly

end ClusterPlan.Activity
