import ClusterPlan.Proofs.Rollout.Delays
import ClusterPlan.Rollout.Readiness
import Mathlib.Order.Bounds.Basic

/-!
# How a wait goes

A wait ends with the first probe that succeeds or with the last that may be made, whichever comes
first, and with what that probe says. Between the probes it sleeps for the delays of its backoff, one
after the other. The number of the attempt stays within 32 bits, and the doubled seconds of a delay
within 64, for all numbers of attempts and all intervals that can be set.
-/

namespace ClusterPlan.Backoff

variable {ε : Type} {b rest : Backoff} {delay : ℕ} {probe : ℕ → Except ε Unit}

/-- What comes of a wait of so many attempts with an interval of so many seconds. -/
structure WaitsWithin (attempts interval : ℕ) (probe : ℕ → Except ε Unit) (w : Waited ε) :
    Prop where
  probes : IsLeast {k | k = max 1 attempts ∨ 0 < k ∧ probe (k - 1) = .ok ()} w.probes
  ok_iff : w.result = .ok () ↔ ∃ i < max 1 attempts, probe i = .ok ()
  last : w.result = probe (w.probes - 1)
  length_delays : w.delays.length = w.probes - 1
  delays : w.delays.map some = (ofSeconds attempts interval).delays (w.probes - 1)
  /-- The number of the last attempt, up to which attempts are counted, has 32 bits. -/
  attempt_lt : w.probes < 2 ^ 32
  /-- A delay is doubled when it is taken, once for each probe. Its seconds have 64 bits then. -/
  doubled_lt : ∀ delay, some delay ∈ (ofSeconds attempts interval).delays w.probes →
    ∃ seconds, delay = second * seconds ∧ 2 * seconds < 2 ^ 64

/-! ### One more attempt -/

theorem next?_of_again? (h : b.again? = some (delay, rest)) : b.next? = some (delay, rest) :=
  Option.eq_some_of_filter_eq_some h

theorem attempts_of_again?_eq_none (h : b.again? = none) : b.attempts = 1 := by
  rw [again?_eq, next?] at h
  split at h
  next hmore =>
    rw [if_neg (by omega)] at h
    cases h
  next hlast => exact max_eq_left (not_lt.mp hlast)

theorem delays_succ_of_next? (h : b.next? = some (delay, rest)) (m : ℕ) :
    b.delays (m + 1) = some delay :: rest.delays m := by
  rw [delays, h]

/-! ### A whole wait -/

/-- What comes of a wait whose first probe has the number `count`. -/
structure Course (count : ℕ) (probe : ℕ → Except ε Unit) (b : Backoff) (w : Waited ε) :
    Prop where
  probes : IsLeast {k | k = b.attempts ∨ 0 < k ∧ probe (count + (k - 1)) = .ok ()} w.probes
  last : w.result = probe (count + (w.probes - 1))
  delays : w.delays.map some = b.delays (w.probes - 1)

theorem Course.probes_pos {count : ℕ} {w : Waited ε} (h : Course count probe b w) :
    0 < w.probes := by
  rcases h.probes.1 with hlast | hready
  · exact hlast ▸ b.attempts_pos
  · exact hready.1

theorem Course.probes_le {count : ℕ} {w : Waited ε} (h : Course count probe b w) :
    w.probes ≤ b.attempts :=
  h.probes.2 (.inl rfl)

theorem Course.length_delays {count : ℕ} {w : Waited ε} (h : Course count probe b w) :
    w.delays.length = w.probes - 1 := by
  rw [← List.length_map (f := some), h.delays, delays_eq, List.length_map, List.length_range]

/-- A wait ends well if and only if there is a success among the probes that may be made. -/
theorem Course.result_eq_ok_iff {count : ℕ} {w : Waited ε} (h : Course count probe b w) :
    w.result = .ok () ↔ ∃ i < b.attempts, probe (count + i) = .ok () := by
  have hpos := h.probes_pos
  rw [h.last]
  constructor
  · intro hready
    exact ⟨w.probes - 1, lt_of_lt_of_le (Nat.sub_one_lt hpos.ne') h.probes_le, hready⟩
  · rintro ⟨i, hi, hready⟩
    rcases h.probes.1 with hlast | ⟨-, hlast⟩
    · have hle : w.probes ≤ i + 1 := h.probes.2 (.inr ⟨i.succ_pos, hready⟩)
      obtain rfl : w.probes - 1 = i := by omega
      exact hready
    · exact hlast

theorem course_of_ended {count : ℕ} {outcome : Except ε Unit} (h : probe count = outcome)
    (hended : b.attempts = 1 ∨ outcome = .ok ()) : Course count probe b ⟨1, [], outcome⟩ where
  probes := by
    refine ⟨hended.imp Eq.symm fun hready ↦ ⟨one_pos, h.trans hready⟩, ?_⟩
    rintro k (rfl | ⟨hk, -⟩)
    · exact b.attempts_pos
    · exact hk
  last := h.symm
  delays := rfl

/-- A failed probe that is not the last one puts off all that follows by one. -/
theorem Course.of_failed {count : ℕ} {e : ε} {w : Waited ε} (h : probe count = .error e)
    (hagain : b.again? = some (delay, rest)) (hrest : Course (count + 1) probe rest w) :
    Course count probe b ⟨w.probes + 1, delay :: w.delays, w.result⟩ where
  probes := by
    have hattempts := attempts_of_again? hagain
    constructor
    · rcases hrest.probes.1 with hlast | ⟨hpos, hready⟩
      · exact .inl (by rw [hattempts, hlast])
      · refine .inr ⟨Nat.succ_pos _, ?_⟩
        rwa [Nat.add_sub_cancel, ← Nat.sub_add_cancel hpos, Nat.add_comm (w.probes - 1),
          ← Nat.add_assoc]
    · rintro k (rfl | ⟨hk, hready⟩)
      · rw [hattempts]
        exact Nat.succ_le_succ (hrest.probes.2 (.inl rfl))
      · -- The probe that has failed is not the one that succeeds.
        obtain ⟨j, rfl⟩ := Nat.exists_eq_add_of_le' hk
        cases j with
        | zero => cases h.symm.trans hready
        | succ j =>
          refine Nat.succ_le_succ (hrest.probes.2 (.inr ⟨Nat.succ_pos j, ?_⟩))
          rwa [Nat.add_sub_cancel, Nat.add_assoc, Nat.add_comm 1 j]
  last := by
    have hpos := hrest.probes_pos
    rw [hrest.last]
    congr 1
    dsimp only
    omega
  delays := by
    have hpos := hrest.probes_pos
    obtain ⟨m, hm⟩ := Nat.exists_eq_add_of_le' hpos
    rw [List.map_cons, hrest.delays, hm, Nat.add_sub_cancel, Nat.add_sub_cancel,
      delays_succ_of_next? (next?_of_again? hagain)]

theorem course_waitFrom (count : ℕ) (probe : ℕ → Except ε Unit) (b : Backoff) :
    Course count probe b (waitFrom count probe b) := by
  fun_induction waitFrom count probe b with
  | case1 count b hready => exact course_of_ended hready (.inr rfl)
  | case2 count b e hfailed hlast =>
    exact course_of_ended hfailed (.inl (attempts_of_again?_eq_none hlast))
  | case3 count b e hfailed delay rest hagain later ih => exact ih.of_failed hfailed hagain

/-! ### In words of the machine -/

/-- Whole seconds stay whole seconds, and none are more than the interval or the longest delay. -/
theorem exists_seconds_of_mem_delays {attempts interval m : ℕ}
    (h : some delay ∈ (ofSeconds attempts interval).delays m) :
    ∃ seconds ≤ max interval 60, delay = second * seconds := by
  obtain ⟨i, -, -, rfl⟩ := mem_delays_iff.mp h
  unfold delayAfter ofSeconds longestDelay
  split
  · exact ⟨interval, le_max_left _ _, mul_comm _ _⟩
  · refine ⟨min (interval * 2 ^ i) 60, (min_le_right _ _).trans (le_max_right _ _), ?_⟩
    rw [← Nat.mul_min_mul_left, ← mul_assoc, mul_comm second interval, mul_comm second 60]

theorem waitsWithin {attempts interval : ℕ} (hattempts : attempts < 2 ^ 32)
    (hinterval : interval ≤ 2 ^ 63 - 1) (probe : ℕ → Except ε Unit) :
    WaitsWithin attempts interval probe ((ofSeconds attempts interval).wait probe) := by
  have h := course_waitFrom 0 probe (ofSeconds attempts interval)
  have hprobes := h.probes
  have hok := h.result_eq_ok_iff
  have hlast := h.last
  simp only [Nat.zero_add] at hprobes hok hlast
  refine ⟨hprobes, hok, hlast, h.length_delays, h.delays, ?_, ?_⟩
  · calc
      _ ≤ max 1 attempts := h.probes_le
      _ < 2 ^ 32 := max_lt (by decide) hattempts
  · intro delay hdelay
    obtain ⟨seconds, hseconds, rfl⟩ := exists_seconds_of_mem_delays hdelay
    have hbound : seconds ≤ 2 ^ 63 - 1 := hseconds.trans (max_le hinterval (by decide))
    exact ⟨seconds, rfl, by omega⟩

/-! ### A long interval -/

theorem waitFrom_of_ready {count : ℕ} (h : probe count = .ok ()) :
    waitFrom count probe b = ⟨1, [], .ok ()⟩ := by
  rw [waitFrom]
  simp only [h]

theorem waitFrom_of_again? {count : ℕ} {e : ε} (h : probe count = .error e)
    (hagain : b.again? = some (delay, rest)) :
    waitFrom count probe b =
      ⟨(waitFrom (count + 1) probe rest).probes + 1, delay :: (waitFrom (count + 1) probe rest).delays,
        (waitFrom (count + 1) probe rest).result⟩ := by
  rw [waitFrom]
  simp only [h]
  split
  next hnone => cases hnone.symm.trans hagain
  next delay' rest' hagain' =>
    obtain ⟨rfl, rfl⟩ := Prod.mk.inj (Option.some.inj (hagain'.symm.trans hagain))
    rfl

/-- A probe that succeeds the third time. -/
def thirdTime (i : ℕ) : Except String Unit := if i < 2 then .error "refused" else .ok ()

theorem waitsWithin_thirdTime :
    5 < 2 ^ 32 ∧ 2 ^ 63 - 1 ≤ 2 ^ 63 - 1 ∧
      WaitsWithin 5 (2 ^ 63 - 1) thirdTime ((ofSeconds 5 (2 ^ 63 - 1)).wait thirdTime) ∧
      (ofSeconds 5 (2 ^ 63 - 1)).wait thirdTime =
        ⟨3, [(2 ^ 63 - 1) * second, 60 * second], .ok ()⟩ := by
  refine ⟨by decide, le_rfl, waitsWithin (by decide) le_rfl thirdTime, ?_⟩
  have hfirst : thirdTime 0 = .error "refused" := rfl
  have hsecond : thirdTime 1 = .error "refused" := rfl
  have hthird : thirdTime 2 = .ok () := rfl
  rw [wait, waitFrom_of_again? hfirst rfl, waitFrom_of_again? hsecond rfl, waitFrom_of_ready hthird]
  rfl

end ClusterPlan.Backoff
