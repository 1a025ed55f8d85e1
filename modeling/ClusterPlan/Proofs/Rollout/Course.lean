import ClusterPlan.Rollout.Run
import ClusterPlan.Proofs.Except
import ClusterPlan.Proofs.Program.Session

/-!
# The course of a rollout

A rollout goes from point to point until it has ended. That a delivery has failed is never forgotten
on the way, so a rollout in whose course any delivery fails ends in an error, also where it goes on
for the sake of the deliveries that stand before that one.

Whatever the programs do and in whichever order the calls of several deliveries end, a rollout calls
nothing but `ssh` and `scp`.
-/

namespace ClusterPlan

open Session (Continues)

/-- A call to a remote host. -/
def Program.Call.IsRemote (call : Program.Call) : Prop :=
  call.program = "ssh" ∨ call.program = "scp"

theorem Delivery.isRemote_call (d : Delivery) (phase : Phase) : (d.call phase).IsRemote := by
  cases phase with
  | probing backoff => exact .inl rfl
  | clearing => exact .inl rfl
  | copying => exact .inr rfl
  | starting => exact .inl rfl

namespace Rollout

/-! ### Calls -/

section Steps

variable (programs : Programs) (schedule : Schedule) (backoff : Backoff) (s : Session)
  (p : Progress)

theorem continues_begin (place : Nat) (d : Delivery) (phase : Delivery.Phase) :
    Continues Program.Call.IsRemote s (begin programs s p place d phase).1 :=
  Session.continues_start (d.isRemote_call phase)

theorem continues_goOn (b : Busy) :
    Continues Program.Call.IsRemote s (goOn programs s p b).1 := by
  unfold goOn
  split
  · exact Continues.refl s
  · exact Continues.refl s
  · exact continues_begin programs s p b.place b.delivery _

theorem continues_step :
    Continues Program.Call.IsRemote s (step programs schedule backoff s p).1 := by
  unfold step
  split
  · exact Continues.refl s
  · exact continues_begin programs s _ _ _ _
  · split
    · exact Continues.refl s
    · exact continues_goOn programs s _ _

theorem continues_settle (inOrder : Bool) :
    Continues Program.Call.IsRemote s (settle programs schedule backoff inOrder s p).1 := by
  fun_induction settle programs schedule backoff inOrder s p with
  | case1 s p verdict hended => exact Continues.refl s
  | case2 s p hopen next ih => exact (continues_step programs schedule backoff s p).trans ih

end Steps

theorem continues_run (programs : Programs) (schedule : Schedule) (backoff : Backoff) (s : Session)
    (deliveries : List (Except Delivery.Error Delivery)) :
    Continues Program.Call.IsRemote s (run programs schedule backoff s deliveries).1 :=
  continues_settle programs schedule backoff s _ _

/-! ### Points on the way -/

section Course

variable {programs : Programs} {schedule : Schedule} {backoff : Backoff} {inOrder : Bool}
  {s s' : Session} {p p' : Progress}

/-- A rollout that is at one point comes to another. -/
inductive Reaches (programs : Programs) (schedule : Schedule) (backoff : Backoff)
    (inOrder : Bool) : Session → Progress → Session → Progress → Prop where
  | refl (s : Session) (p : Progress) : Reaches programs schedule backoff inOrder s p s p
  | step {s s' : Session} {p p' : Progress} (hopen : p.verdict? inOrder = none)
    (h : Reaches programs schedule backoff inOrder (Rollout.step programs schedule backoff s p).1
      (Rollout.step programs schedule backoff s p).2 s' p') :
    Reaches programs schedule backoff inOrder s p s' p'

theorem settle_of_open (h : p.verdict? inOrder = none) :
    settle programs schedule backoff inOrder s p =
      settle programs schedule backoff inOrder (step programs schedule backoff s p).1
        (step programs schedule backoff s p).2 := by
  rw [settle]
  split
  next ended hended => cases hended.symm.trans h
  next => rfl

/-- A rollout ends alike from all points of its course. -/
theorem Reaches.settle_eq (h : Reaches programs schedule backoff inOrder s p s' p') :
    settle programs schedule backoff inOrder s p =
      settle programs schedule backoff inOrder s' p' := by
  induction h with
  | refl s p => rfl
  | step hopen _ ih => rw [settle_of_open hopen, ih]

/-- The end of a rollout is on its course. -/
theorem exists_reaches_settle (programs : Programs) (schedule : Schedule) (backoff : Backoff)
    (inOrder : Bool) (s : Session) (p : Progress) :
    ∃ p', Reaches programs schedule backoff inOrder s p
        (settle programs schedule backoff inOrder s p).1 p' ∧
      p'.verdict? inOrder = some (settle programs schedule backoff inOrder s p).2 := by
  fun_induction settle programs schedule backoff inOrder s p with
  | case1 s p verdict hended => exact ⟨p, .refl s p, hended⟩
  | case2 s p hopen next ih =>
    obtain ⟨p', hreaches, hended⟩ := ih
    exact ⟨p', .step hopen hreaches, hended⟩

/-! ### Failures -/

theorem Progress.failed_fail_ne_none (p : Progress) (place : Nat) (e : Delivery.Error) :
    (p.fail place e).failed ≠ none := by
  unfold fail
  split
  next => exact Option.some_ne_none _
  next f hfailed =>
    split
    · rw [hfailed]
      exact Option.some_ne_none f
    · exact Option.some_ne_none _

theorem failed_begin_ne_none {place : Nat} {d : Delivery} {phase : Delivery.Phase}
    (h : p.failed ≠ none) : (begin programs s p place d phase).2.failed ≠ none := by
  unfold begin
  dsimp only
  split
  · exact p.failed_fail_ne_none place _
  · exact h

theorem failed_goOn_ne_none {b : Busy} (h : p.failed ≠ none) :
    (goOn programs s p b).2.failed ≠ none := by
  unfold goOn
  split
  · exact p.failed_fail_ne_none b.place _
  · exact h
  · exact failed_begin_ne_none h

theorem failed_step_ne_none (h : p.failed ≠ none) :
    (step programs schedule backoff s p).2.failed ≠ none := by
  unfold step
  split
  · exact Progress.failed_fail_ne_none _ _ _
  · exact failed_begin_ne_none h
  · split
    · exact h
    · exact failed_goOn_ne_none h

/-- A failure is kept until the end. -/
theorem Reaches.failed_ne_none (hreaches : Reaches programs schedule backoff inOrder s p s' p')
    (h : p.failed ≠ none) : p'.failed ≠ none := by
  induction hreaches with
  | refl s p => exact h
  | step _ _ ih => exact ih (failed_step_ne_none h)

/-- What a rollout ends in is an error if and only if a delivery has failed by then. -/
theorem Progress.exists_error_iff {verdict : Except Delivery.Error Unit}
    (h : p.verdict? inOrder = some verdict) : (∃ e, verdict = .error e) ↔ p.failed ≠ none := by
  unfold verdict? at h
  split at h
  next hfailed =>
    split at h
    · rw [← Option.some.inj h, hfailed]
      simp
    · cases h
  next f hfailed =>
    split at h
    · cases h
    · rw [← Option.some.inj h, hfailed]
      simp

/-- Some delivery fails in the course of a rollout. -/
def SomeFails (programs : Programs) (schedule : Schedule) (backoff : Backoff) (s : Session)
    (deliveries : List (Except Delivery.Error Delivery)) : Prop :=
  ∃ s' p', Reaches programs schedule backoff (Activity.joinLimit < deliveries.length) s
    (.ofDeliveries deliveries) s' p' ∧ p'.failed ≠ none

theorem exists_run_eq_error_iff (programs : Programs) (schedule : Schedule) (backoff : Backoff)
    (s : Session) (deliveries : List (Except Delivery.Error Delivery)) :
    (∃ e, (run programs schedule backoff s deliveries).2 = .error e) ↔
      SomeFails programs schedule backoff s deliveries := by
  obtain ⟨last, hlast, hended⟩ := exists_reaches_settle programs schedule backoff
    (Activity.joinLimit < deliveries.length) s (.ofDeliveries deliveries)
  unfold run
  rw [Progress.exists_error_iff hended]
  constructor
  · exact fun hfailed ↦ ⟨_, last, hlast, hfailed⟩
  · rintro ⟨s', p', hreaches, hfailed⟩
    obtain ⟨end', hend', hended'⟩ := exists_reaches_settle programs schedule backoff
      (Activity.joinLimit < deliveries.length) s' p'
    rw [hreaches.settle_eq] at hended
    rw [← Progress.exists_error_iff hended, Progress.exists_error_iff hended']
    exact hend'.failed_ne_none hfailed

end Course

end Rollout

end ClusterPlan
