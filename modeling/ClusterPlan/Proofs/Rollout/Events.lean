import ClusterPlan.Proofs.Program.Session
import ClusterPlan.Proofs.Rollout.Course

/-!
# Events of a rollout

A rollout can be watched: calls start, and calls end. What is watched is told in the order in which
it happens, and of the calls that start it tells all that the session has more at the end. A program
that cannot be found is not called, so nothing is to be seen of it.
-/

namespace ClusterPlan.Rollout

inductive Event where
  | started (b : Busy)
  | ended (b : Busy)

def Busy.call (b : Busy) : Program.Call := b.delivery.call b.phase

/-- What is to be seen of a call. -/
def Busy.seen (b : Busy) : List Busy := if b.ending = .missing then [] else [b]

theorem Busy.seen_cases (b : Busy) : b.seen = [] ∨ b.seen = [b] := by
  unfold seen
  split
  · exact .inl rfl
  · exact .inr rfl

namespace Event

def busy : Event → Busy
  | started b => b
  | ended b => b

def started? : Event → Option Busy
  | started b => some b
  | ended _ => none

end Event

/-- The calls that start. -/
def made (events : List Event) : List Busy := events.filterMap Event.started?

/-- What happens to the delivery at a place. -/
def eventsAt (place : Nat) (events : List Event) : List Event :=
  events.filter (·.busy.place = place)

section Events

variable (programs : Programs) (schedule : Schedule) (backoff : Backoff)

/-- The call of a phase, with the ending that it has after the calls of a session. -/
def busyAt (s : Session) (place : Nat) (d : Delivery) (phase : Delivery.Phase) : Busy :=
  ⟨place, d, phase, programs.ending s.calls (d.call phase)⟩

def beginEvents (s : Session) (place : Nat) (d : Delivery) (phase : Delivery.Phase) : List Event :=
  (busyAt programs s place d phase).seen.map .started

/-- What happens when a call has ended. -/
def goOnEvents (s : Session) (b : Busy) : List Event :=
  match b.next with
  | .ok (some phase) => beginEvents programs s b.place b.delivery phase
  | _ => []

/-- What happens in one step. -/
def stepEvents (s : Session) (p : Progress) : List Event :=
  match p.waiting with
  | (.error _, _) :: _ => []
  | (.ok d, place) :: _ => beginEvents programs s place d (.probing backoff)
  | [] =>
    match choose (schedule s.calls) p.busy with
    | none => []
    | some (b, _) => b.seen.map .ended ++ goOnEvents programs s b

/-- What happens until a rollout has ended. -/
def events (inOrder : Bool) (s : Session) (p : Progress) : List Event :=
  match _open : p.verdict? inOrder with
  | some _ => []
  | none =>
    let next := step programs schedule backoff s p
    stepEvents programs schedule backoff s p ++ events inOrder next.1 next.2
  termination_by (p.waiting.length, callsLeft p.busy)
  decreasing_by exact step_of_verdict? _open

/-- What happens in a rollout of deliveries. -/
def runEvents (s : Session) (deliveries : List (Except Delivery.Error Delivery)) : List Event :=
  events programs schedule backoff (Activity.joinLimit < deliveries.length) s
    (.ofDeliveries deliveries)

end Events

/-- What one step comes to, and what is seen of it. -/
inductive StepsTo (programs : Programs) (backoff : Backoff) (s : Session) (p : Progress) :
    Session × Progress → List Event → Prop where
  | refused {e : Delivery.Error} {place : Nat} {rest : List (Except Delivery.Error Delivery × Nat)}
    (hwaiting : p.waiting = (.error e, place) :: rest) :
    StepsTo programs backoff s p (s, { p with waiting := rest }.fail place e) []
  | begun {d : Delivery} {place : Nat} {rest : List (Except Delivery.Error Delivery × Nat)}
    (hwaiting : p.waiting = (.ok d, place) :: rest) :
    StepsTo programs backoff s p
      (begin programs s { p with waiting := rest } place d (.probing backoff))
      (beginEvents programs s place d (.probing backoff))
  | idle (hwaiting : p.waiting = []) (hbusy : p.busy = []) : StepsTo programs backoff s p (s, p) []
  | failed {b : Busy} {others : List Busy} {e : Delivery.Error} (hwaiting : p.waiting = [])
    (hbusy : p.busy.Perm (b :: others)) (hnext : b.next = .error e) :
    StepsTo programs backoff s p (s, { p with busy := others }.fail b.place e) (b.seen.map .ended)
  | done {b : Busy} {others : List Busy} (hwaiting : p.waiting = [])
    (hbusy : p.busy.Perm (b :: others)) (hnext : b.next = .ok none) :
    StepsTo programs backoff s p (s, { p with busy := others }) (b.seen.map .ended)
  | followed {b : Busy} {others : List Busy} {phase : Delivery.Phase} (hwaiting : p.waiting = [])
    (hbusy : p.busy.Perm (b :: others)) (hnext : b.next = .ok (some phase)) :
    StepsTo programs backoff s p
      (begin programs s { p with busy := others } b.place b.delivery phase)
      (b.seen.map .ended ++ beginEvents programs s b.place b.delivery phase)

theorem stepsTo (programs : Programs) (schedule : Schedule) (backoff : Backoff) (s : Session)
    (p : Progress) :
    StepsTo programs backoff s p (step programs schedule backoff s p)
      (stepEvents programs schedule backoff s p) := by
  obtain ⟨waiting, busy, failed⟩ := p
  cases waiting with
  | cons first rest =>
    obtain ⟨result, place⟩ := first
    cases result with
    | error e => exact .refused rfl
    | ok d => exact .begun rfl
  | nil =>
    unfold step stepEvents
    dsimp only
    cases hchosen : choose (schedule s.calls) busy with
    | none => exact .idle rfl (eq_nil_of_choose_eq_none hchosen)
    | some chosen =>
      obtain ⟨b, others⟩ := chosen
      have hbusy := perm_of_choose hchosen
      dsimp only
      unfold goOn goOnEvents
      cases hnext : b.next with
      | error e =>
        rw [List.append_nil]
        exact .failed rfl hbusy hnext
      | ok following =>
        cases following with
        | none =>
          rw [List.append_nil]
          exact .done rfl hbusy hnext
        | some phase => exact .followed rfl hbusy hnext

/-! ### Calls -/

section Calls

@[simp]
theorem made_nil : made [] = [] := rfl

@[simp]
theorem made_append (before after : List Event) : made (before ++ after) = made before ++ made after :=
  List.filterMap_append

@[simp]
theorem made_map_started (busy : List Busy) : made (busy.map .started) = busy := by
  unfold made
  rw [List.filterMap_map]
  exact List.filterMap_some

@[simp]
theorem made_map_ended (busy : List Busy) : made (busy.map .ended) = [] := by
  unfold made
  rw [List.filterMap_map, List.filterMap_eq_nil_iff]
  exact fun _ _ ↦ rfl

variable {programs : Programs} {schedule : Schedule} {backoff : Backoff} {inOrder : Bool}
  {s : Session} {p : Progress}

theorem calls_start (s : Session) (place : Nat) (d : Delivery) (phase : Delivery.Phase) :
    (s.start programs (d.call phase)).1.calls =
      s.calls ++ (busyAt programs s place d phase).seen.map Busy.call := by
  unfold Busy.seen busyAt
  split
  next hmissing => rw [Session.start_of_missing hmissing, List.map_nil, List.append_nil]
  next hfound =>
    rw [Session.calls_start_of_ne_missing hfound]
    rfl

theorem calls_begin (place : Nat) (d : Delivery) (phase : Delivery.Phase) :
    (begin programs s p place d phase).1.calls =
      s.calls ++ (made (beginEvents programs s place d phase)).map Busy.call := by
  rw [beginEvents, made_map_started]
  exact calls_start s place d phase

theorem calls_step :
    (step programs schedule backoff s p).1.calls =
      s.calls ++ (made (stepEvents programs schedule backoff s p)).map Busy.call := by
  have hstep := stepsTo programs schedule backoff s p
  generalize step programs schedule backoff s p = after,
    stepEvents programs schedule backoff s p = seen at hstep ⊢
  cases hstep with
  | refused hwaiting => simp
  | begun hwaiting => exact calls_begin _ _ _
  | idle hwaiting hbusy => simp
  | failed hwaiting hbusy hnext => simp
  | done hwaiting hbusy hnext => simp
  | followed hwaiting hbusy hnext =>
    rw [made_append, made_map_ended, List.nil_append]
    exact calls_begin _ _ _

/-- The calls that a rollout adds to a session are those that are seen to start. -/
theorem calls_settle (inOrder : Bool) (s : Session) (p : Progress) :
    (settle programs schedule backoff inOrder s p).1.calls =
      s.calls ++ (made (events programs schedule backoff inOrder s p)).map Busy.call := by
  fun_induction settle programs schedule backoff inOrder s p with
  | case1 s p verdict hended =>
    rw [events]
    split
    next => simp
    next hopen => cases hopen.symm.trans hended
  | case2 s p hopen next ih =>
    rw [events]
    split
    next _ hended => cases hopen.symm.trans hended
    next =>
      rw [ih, calls_step, made_append, List.map_append, List.append_assoc]

theorem calls_run (programs : Programs) (schedule : Schedule) (backoff : Backoff) (s : Session)
    (deliveries : List (Except Delivery.Error Delivery)) :
    (run programs schedule backoff s deliveries).1.calls =
      s.calls ++ (made (runEvents programs schedule backoff s deliveries)).map Busy.call :=
  calls_settle _ _ _

end Calls

end ClusterPlan.Rollout
