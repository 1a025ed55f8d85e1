import ClusterPlan.Activity
import ClusterPlan.Rollout.Delivery

/-!
# Rollouts

Deliveries to several servers run side by side. They begin in their order; from then on each has one
call under way, and whenever a call ends, its delivery goes on to its next one, in an order that a
schedule decides. A delivery that cannot be made out fails where it would begin.

As in a join of activities, the first failure ends a rollout of at most `Activity.joinLimit`
deliveries: no further call is made. In a longer one a failure waits until no delivery that stands
before it is under way, and the others go on until then.
-/

namespace ClusterPlan.Rollout

/-- Which of the calls that are under way ends next, after the calls made so far. -/
abbrev Schedule := List Program.Call → Nat

/-- Calls end in the order in which they were made. -/
def inTurn : Schedule := fun _ ↦ 0

/-- The delivery at a place in a phase, with the ending that the call of the phase will have. -/
structure Busy where
  place : Nat
  delivery : Delivery
  phase : Delivery.Phase
  ending : Program.Ending

/-- What follows when the call has ended. -/
def Busy.next (b : Busy) : Except Delivery.Error (Option Delivery.Phase) :=
  b.delivery.next b.phase ((b.delivery.call b.phase).output b.ending)

/-- That the delivery at a place has failed. -/
structure Failure where
  place : Nat
  error : Delivery.Error

/-- How far a rollout is: the deliveries that have not begun, those that are under way, and of the
failures so far the one that stands first. -/
structure Progress where
  waiting : List (Except Delivery.Error Delivery × Nat)
  busy : List Busy
  failed : Option Failure

namespace Progress

def ofDeliveries (deliveries : List (Except Delivery.Error Delivery)) : Progress :=
  ⟨deliveries.zipIdx, [], none⟩

def fail (p : Progress) (place : Nat) (e : Delivery.Error) : Progress :=
  match p.failed with
  | none => { p with failed := some ⟨place, e⟩ }
  | some f => if f.place < place then p else { p with failed := some ⟨place, e⟩ }

/-- What the rollout has ended in, if it has ended. With `inOrder` a failure waits for the deliveries
before it. -/
def verdict? (inOrder : Bool) (p : Progress) : Option (Except Delivery.Error Unit) :=
  match p.failed with
  | none => if p.waiting.isEmpty && p.busy.isEmpty then some (.ok ()) else none
  | some f => if inOrder && p.busy.any (·.place < f.place) then none else some (.error f.error)

end Progress

/-! ### Choosing -/

/-- The element that a number falls on, and the others in their order. -/
def choose {α : Type} (n : Nat) (items : List α) : Option (α × List α) :=
  match items.drop (n % items.length) with
  | [] => none
  | item :: after => some (item, items.take (n % items.length) ++ after)

theorem perm_of_choose {α : Type} {n : Nat} {items others : List α} {item : α}
    (h : choose n items = some (item, others)) : items.Perm (item :: others) := by
  unfold choose at h
  split at h
  case h_1 => simp at h
  case h_2 first after split =>
    simp only [Option.some.injEq, Prod.mk.injEq] at h
    obtain ⟨rfl, rfl⟩ := h
    have whole : items = items.take (n % items.length) ++ first :: after := by
      rw [← split, List.take_append_drop]
    exact (List.Perm.of_eq whole).trans List.perm_middle

theorem eq_nil_of_choose_eq_none {α : Type} {n : Nat} {items : List α}
    (h : choose n items = none) : items = [] := by
  unfold choose at h
  split at h
  case h_1 split =>
    rw [List.drop_eq_nil_iff] at split
    cases items with
    | nil => rfl
    | cons item rest =>
      have bound := Nat.mod_lt n (List.length_pos_iff.mpr (List.cons_ne_nil item rest))
      omega
  case h_2 => cases h

/-! ### Steps -/

section Steps

variable (programs : Programs) (schedule : Schedule) (backoff : Backoff)

/-- Begin a phase of the delivery at a place. A call of a missing program ends at once, so if that
ends the delivery, it does so here. -/
def begin (s : Session) (p : Progress) (place : Nat) (d : Delivery) (phase : Delivery.Phase) :
    Session × Progress :=
  let (after, ending) := s.start programs (d.call phase)
  let b : Busy := ⟨place, d, phase, ending⟩
  (after, match ending, b.next with
    | .missing, .error e => p.fail place e
    | _, _ => { p with busy := p.busy ++ [b] })

/-- Go on with a delivery whose call has ended. -/
def goOn (s : Session) (p : Progress) (b : Busy) : Session × Progress :=
  match b.next with
  | .error e => (s, p.fail b.place e)
  | .ok none => (s, p)
  | .ok (some phase) => begin programs s p b.place b.delivery phase

/-- Begin the delivery that waits first, with a probe; where none waits, let a call end. -/
def step (s : Session) (p : Progress) : Session × Progress :=
  match p.waiting with
  | (.error e, place) :: rest => (s, { p with waiting := rest }.fail place e)
  | (.ok d, place) :: rest => begin programs s { p with waiting := rest } place d (.probing backoff)
  | [] =>
    match choose (schedule s.calls) p.busy with
    | none => (s, p)
    | some (b, others) => goOn programs s { p with busy := others } b

end Steps

/-! ### Progress -/

def callsLeft : List Busy → Nat
  | [] => 0
  | b :: rest => b.phase.callsLeft + callsLeft rest

theorem callsLeft_append (busy more : List Busy) :
    callsLeft (busy ++ more) = callsLeft busy + callsLeft more := by
  induction busy with
  | nil => simp [callsLeft]
  | cons b rest ih => simp [callsLeft, ih, Nat.add_assoc]

theorem callsLeft_of_perm {busy others : List Busy} (h : busy.Perm others) :
    callsLeft busy = callsLeft others := by
  induction h with
  | nil => rfl
  | cons b _ ih => simp [callsLeft, ih]
  | swap a b rest => simp [callsLeft, Nat.add_left_comm]
  | trans _ _ ih₁ ih₂ => exact ih₁.trans ih₂

theorem callsLeft_of_choose {n : Nat} {busy others : List Busy} {b : Busy}
    (h : choose n busy = some (b, others)) :
    callsLeft busy = b.phase.callsLeft + callsLeft others :=
  callsLeft_of_perm (perm_of_choose h)

section Progress

variable {programs : Programs} {schedule : Schedule} {backoff : Backoff} {s : Session}
  {p : Progress}

theorem Progress.waiting_fail (p : Progress) (place : Nat) (e : Delivery.Error) :
    (p.fail place e).waiting = p.waiting := by
  unfold fail
  split
  · rfl
  · split <;> rfl

theorem Progress.busy_fail (p : Progress) (place : Nat) (e : Delivery.Error) :
    (p.fail place e).busy = p.busy := by
  unfold fail
  split
  · rfl
  · split <;> rfl

theorem waiting_begin (place : Nat) (d : Delivery) (phase : Delivery.Phase) :
    (begin programs s p place d phase).2.waiting = p.waiting := by
  unfold begin
  dsimp only
  split
  · exact p.waiting_fail _ _
  · rfl

theorem callsLeft_begin_le (place : Nat) (d : Delivery) (phase : Delivery.Phase) :
    callsLeft (begin programs s p place d phase).2.busy ≤ callsLeft p.busy + phase.callsLeft := by
  unfold begin
  dsimp only
  split
  · simp [p.busy_fail]
  · simp [callsLeft_append, callsLeft]

theorem waiting_goOn (b : Busy) : (goOn programs s p b).2.waiting = p.waiting := by
  unfold goOn
  split
  · exact p.waiting_fail _ _
  · rfl
  · exact waiting_begin _ _ _

theorem callsLeft_goOn_lt (b : Busy) :
    callsLeft (goOn programs s p b).2.busy < b.phase.callsLeft + callsLeft p.busy := by
  have hpos := b.phase.callsLeft_pos
  unfold goOn
  split
  · rw [p.busy_fail]
    omega
  · dsimp only
    omega
  case h_3 phase hnext =>
    have hle : callsLeft (begin programs s p b.place b.delivery phase).2.busy ≤ _ :=
      callsLeft_begin_le b.place b.delivery phase
    have hfewer := Delivery.callsLeft_lt_of_next hnext
    omega

/-- A rollout that has not ended gets further with each step: a delivery begins, or there are fewer
calls left. -/
theorem step_of_verdict? {inOrder : Bool} (h : p.verdict? inOrder = none) :
    Prod.Lex (· < ·) (· < ·)
      ((step programs schedule backoff s p).2.waiting.length,
        callsLeft (step programs schedule backoff s p).2.busy)
      (p.waiting.length, callsLeft p.busy) := by
  unfold step
  split
  case h_1 e place rest hwaiting =>
    apply Prod.Lex.left
    simp [Progress.waiting_fail, hwaiting]
  case h_2 d place rest hwaiting =>
    apply Prod.Lex.left
    simp [waiting_begin, hwaiting]
  case h_3 hwaiting =>
    have hbusy : p.busy ≠ [] := by
      intro hbusy
      unfold Progress.verdict? at h
      split at h <;> simp [hwaiting, hbusy] at h
    split
    next hnone => exact absurd (eq_nil_of_choose_eq_none hnone) hbusy
    next b others hchosen =>
      rw [callsLeft_of_choose hchosen, waiting_goOn]
      exact Prod.Lex.right _ (callsLeft_goOn_lt b)

end Progress

/-! ### Running -/

/-- Let a rollout go on until it has ended. -/
def settle (programs : Programs) (schedule : Schedule) (backoff : Backoff) (inOrder : Bool)
    (s : Session) (p : Progress) : Session × Except Delivery.Error Unit :=
  match _open : p.verdict? inOrder with
  | some verdict => (s, verdict)
  | none =>
    let next := step programs schedule backoff s p
    settle programs schedule backoff inOrder next.1 next.2
  termination_by (p.waiting.length, callsLeft p.busy)
  decreasing_by exact step_of_verdict? _open

def run (programs : Programs) (schedule : Schedule) (backoff : Backoff) (s : Session)
    (deliveries : List (Except Delivery.Error Delivery)) : Session × Except Delivery.Error Unit :=
  settle programs schedule backoff (Activity.joinLimit < deliveries.length) s
    (.ofDeliveries deliveries)

end ClusterPlan.Rollout
