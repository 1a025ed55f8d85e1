import ClusterPlan.Rollout.Backoff
import Mathlib.Algebra.Order.Group.Nat
import Mathlib.Data.List.ReduceOption
import Mathlib.Order.Monotone.Basic

/-!
# How delays grow

The delay doubles after each attempt and is held to the longest one then. The first delay is the
interval itself, and nothing holds it to the longest: the delays grow as they are meant to exactly
when the interval is not longer than that, or when there is no attempt.
-/

namespace ClusterPlan.Backoff

/-- The delay after so many attempts have been made before. -/
def delayAfter (b : Backoff) (i : ℕ) : ℕ :=
  if i = 0 then b.delay else min (b.delay * 2 ^ i) longestDelay

/-- What calls for the next delay are meant to give: the interval, doubled with each call and held
to the longest delay, as often as there are attempts, and nothing after that. -/
structure GrowsToLongest (attempts interval : ℕ) : Prop where
  calls : ∀ m, (⟨attempts, interval⟩ : Backoff).delays m = (List.range m).map fun i ↦
    if i < attempts then some (min (interval * 2 ^ i) longestDelay) else none
  ascending : ∀ m, ((⟨attempts, interval⟩ : Backoff).delays m).reduceOption.Pairwise (· ≤ ·)
  le_longestDelay : ∀ m delay, some delay ∈ (⟨attempts, interval⟩ : Backoff).delays m →
    delay ≤ longestDelay

theorem min_min_mul_two_pow (delay longest i : ℕ) :
    min (min (2 * delay) longest * 2 ^ i) longest = min (delay * 2 ^ (i + 1)) longest :=
  calc
    _ = min (min (2 * delay * 2 ^ i) (longest * 2 ^ i)) longest := by rw [Nat.mul_min_mul_right]
    _ = min (2 * delay * 2 ^ i) (min (longest * 2 ^ i) longest) := min_assoc _ _ _
    _ = min (2 * delay * 2 ^ i) longest := by
      rw [min_eq_right (Nat.le_mul_of_pos_right longest (Nat.two_pow_pos i))]
    _ = _ := by rw [pow_succ', mul_left_comm, mul_assoc]

/-- What one call leaves gives the same delays, one call earlier. -/
theorem delayAfter_next (b : Backoff) (i : ℕ) :
    delayAfter ⟨b.remaining - 1, min (2 * b.delay) longestDelay⟩ i = b.delayAfter (i + 1) := by
  unfold delayAfter
  rw [if_neg (Nat.succ_ne_zero i)]
  split
  next hfirst => rw [hfirst, zero_add, pow_one, mul_comm]
  next => exact min_min_mul_two_pow b.delay longestDelay i

theorem delays_eq (b : Backoff) (m : ℕ) :
    b.delays m =
      (List.range m).map fun i ↦ if i < b.remaining then some (b.delayAfter i) else none := by
  induction m generalizing b with
  | zero => rfl
  | succ m ih =>
    rw [List.range_succ_eq_map, List.map_cons, List.map_map, delays, next?]
    by_cases hnone : b.remaining = 0
    · simp [hnone, ih, Function.comp_def]
    · have hpos : 0 < b.remaining := Nat.pos_of_ne_zero hnone
      have hrest (i : ℕ) : i < b.remaining - 1 ↔ i.succ < b.remaining := by omega
      simp only [if_neg hnone, ih, if_pos hpos, delayAfter_next, hrest]
      rfl

theorem mem_delays_iff {b : Backoff} {m delay : ℕ} :
    some delay ∈ b.delays m ↔ ∃ i < m, i < b.remaining ∧ b.delayAfter i = delay := by
  rw [delays_eq]
  simp

section Longest

variable {attempts interval : ℕ}

/-- An interval within the longest delay is held to it from the start. -/
theorem delayAfter_of_le (h : interval ≤ longestDelay) (i : ℕ) :
    delayAfter ⟨attempts, interval⟩ i = min (interval * 2 ^ i) longestDelay := by
  unfold delayAfter
  split
  next hfirst => rw [hfirst, pow_zero, mul_one, min_eq_left h]
  next => rfl

theorem delayAfter_le (h : interval ≤ longestDelay) (i : ℕ) :
    delayAfter ⟨attempts, interval⟩ i ≤ longestDelay := by
  rw [delayAfter_of_le h]
  exact min_le_right _ _

theorem monotone_delayAfter (h : interval ≤ longestDelay) :
    Monotone (delayAfter ⟨attempts, interval⟩) := by
  intro i j hij
  rw [delayAfter_of_le h, delayAfter_of_le h]
  exact min_le_min_right longestDelay
    (Nat.mul_le_mul_left interval (Nat.pow_le_pow_right Nat.zero_lt_two hij))

/-- The delays are given before the calls that give none. -/
theorem reduceOption_delays (b : Backoff) (m : ℕ) :
    (b.delays m).reduceOption = (List.range (min m b.remaining)).map b.delayAfter := by
  rw [delays_eq]
  induction m with
  | zero => simp
  | succ m ih =>
    rw [List.range_succ, List.map_append, List.reduceOption_append, ih, List.map_singleton]
    by_cases hlt : m < b.remaining
    · rw [if_pos hlt, min_eq_left hlt.le, min_eq_left hlt, List.range_succ, List.map_append]
      rfl
    · rw [if_neg hlt, min_eq_right (not_lt.mp hlt), min_eq_right (by omega)]
      simp

theorem growsToLongest_of_le (h : interval ≤ longestDelay) : GrowsToLongest attempts interval where
  calls m := by
    rw [delays_eq]
    simp only [delayAfter_of_le h]
  ascending m := by
    rw [reduceOption_delays, List.pairwise_map]
    exact List.pairwise_lt_range.imp fun hij ↦ monotone_delayAfter h hij.le
  le_longestDelay m delay hdelay := by
    obtain ⟨i, -, -, rfl⟩ := mem_delays_iff.mp hdelay
    exact delayAfter_le h i

theorem growsToLongest_zero (interval : ℕ) : GrowsToLongest 0 interval where
  calls m := by simp [delays_eq]
  ascending m := by simp [reduceOption_delays]
  le_longestDelay m delay hdelay := by simp [mem_delays_iff] at hdelay

end Longest

/-- The first call gives the interval as it is. -/
theorem growsToLongest_iff (attempts interval : ℕ) :
    GrowsToLongest attempts interval ↔ attempts = 0 ∨ interval ≤ longestDelay := by
  constructor
  · intro h
    rw [or_iff_not_imp_left]
    intro hattempts
    have hfirst : some interval ∈ (⟨attempts, interval⟩ : Backoff).delays 1 :=
      mem_delays_iff.mpr ⟨0, one_pos, Nat.pos_of_ne_zero hattempts, rfl⟩
    exact h.le_longestDelay 1 interval hfirst
  · rintro (rfl | hinterval)
    · exact growsToLongest_zero interval
    · exact growsToLongest_of_le hinterval

/-- With an interval of two minutes the delay shrinks after the first attempt. -/
theorem not_growsToLongest_twoMinutes :
    ¬GrowsToLongest 2 (120 * second) ∧
      (⟨2, 120 * second⟩ : Backoff).delays 3 =
        [some (120 * second), some (60 * second), none] := by
  refine ⟨fun h ↦ ?_, rfl⟩
  have hsettled := (growsToLongest_iff 2 (120 * second)).mp h
  exact absurd hsettled (by decide)

end ClusterPlan.Backoff
