import ClusterPlan.Proofs.Rollout.Events

/-!
# Order of the calls to a server

The calls of one delivery are made in their order: fewer failed probes than there are attempts, and
then one call after the other of a fixed route, each of which starts when the one before it has ended
in success. That several deliveries are under way side by side, in whichever order their calls end,
changes nothing about it: a delivery never has more than one call under way.

The invariant that carries this says what has been made before the call of a phase. It is kept by
each step, and so it holds of the whole course of a rollout.
-/

namespace ClusterPlan

namespace Delivery

/-! ### Phases -/

/-- The calls of a delivery that is never held up. -/
def route (d : Delivery) : List Program.Call :=
  [d.remote.shellCall probeCommand, d.remote.shellCall d.clearCommand,
    d.remote.copyCall d.directory remoteRoot, d.remote.shellCall d.startCommand]

namespace Phase

/-- The place of the call of a phase on the route. -/
def rank : Phase → Nat
  | probing _ => 0
  | clearing => 1
  | copying => 2
  | starting => 3

/-- The probes for which there must be room from a phase on, the last one among them. -/
def probesLeft : Phase → Nat
  | probing backoff => backoff.attempts
  | _ => 1

theorem probesLeft_pos (phase : Phase) : 0 < phase.probesLeft := by
  cases phase with
  | probing backoff => exact backoff.attempts_pos
  | clearing | copying | starting => exact Nat.one_pos

end Phase

theorem take_rank_succ (d : Delivery) (phase : Phase) :
    d.route.take (phase.rank + 1) = d.route.take phase.rank ++ [d.call phase] := by
  cases phase with
  | probing backoff => rfl
  | clearing => rfl
  | copying => rfl
  | starting => rfl

/-- The phase that comes after one whose call has ended. -/
inductive Follows : Phase → Except Program.Fault String → Phase → Prop where
  | again {backoff rest : Backoff} {fault : Program.Fault}
    (h : rest.attempts < backoff.attempts) :
    Follows (.probing backoff) (.error fault) (.probing rest)
  | passed {phase later : Phase} {output : String} (hrank : later.rank = phase.rank + 1)
    (hprobes : later.probesLeft ≤ phase.probesLeft) : Follows phase (.ok output) later

theorem follows_of_next {d : Delivery} {phase later : Phase} {x : Except Program.Fault String}
    (h : d.next phase x = .ok (some later)) : Follows phase x later := by
  cases x with
  | error fault =>
    cases phase with
    | probing backoff =>
      change d.afterFailedProbe backoff fault = _ at h
      unfold afterFailedProbe at h
      split at h
      next delay rest hagain =>
        obtain rfl := Option.some.inj (Except.ok.inj h)
        exact .again (Backoff.attempts_lt_of_again? hagain)
      next => cases h
    | clearing | copying | starting => cases h
  | ok output =>
    cases phase with
    | probing backoff =>
      obtain rfl := Option.some.inj (Except.ok.inj h)
      exact .passed rfl backoff.attempts_pos
    | clearing | copying =>
      obtain rfl := Option.some.inj (Except.ok.inj h)
      exact .passed rfl (Nat.le_refl _)
    | starting => cases h

end Delivery

namespace Rollout

def Busy.Succeeds (b : Busy) : Prop := ∃ output, b.call.output b.ending = .ok output

/-- Calls as one delivery makes them that has so many attempts to reach its server: probes that
fail, with one attempt left, and then calls along the route, each of which but the last succeeds. -/
def InOrder (d : Delivery) (attempts : Nat) (made : List Busy) : Prop :=
  ∃ refused onward, made = refused ++ onward ∧
    refused.length < attempts ∧
    (∀ b ∈ refused, b.call = d.remote.shellCall Delivery.probeCommand ∧ ¬b.Succeeds) ∧
    onward.map Busy.call <+: d.route ∧
    ∀ b ∈ onward.dropLast, b.Succeeds

/-! ### What is made before a phase -/

/-- The calls that a delivery has made before that of a phase: probes that failed, and then calls
that succeeded. -/
structure IsBefore (d : Delivery) (attempts : Nat) (phase : Delivery.Phase)
    (refused passed : List Busy) : Prop where
  room : refused.length + phase.probesLeft ≤ attempts
  failed : ∀ b ∈ refused, b.call = d.remote.shellCall Delivery.probeCommand ∧ ¬b.Succeeds
  calls : passed.map Busy.call = d.route.take phase.rank
  succeeded : ∀ b ∈ passed, b.Succeeds

section IsBefore

variable {d : Delivery} {attempts : Nat} {phase : Delivery.Phase} {refused passed : List Busy}
  {b : Busy}

theorem isBefore_probing (d : Delivery) (backoff : Backoff) :
    IsBefore d backoff.attempts (.probing backoff) [] [] :=
  ⟨by simp [Delivery.Phase.probesLeft], nofun, rfl, nofun⟩

theorem IsBefore.inOrder (h : IsBefore d attempts phase refused passed) :
    InOrder d attempts (refused ++ passed) := by
  have hpos := phase.probesLeft_pos
  have hroom := h.room
  refine ⟨refused, passed, rfl, by omega, h.failed, ?_, ?_⟩
  · rw [h.calls]
    exact List.take_prefix _ _
  · exact fun b hb ↦ h.succeeded b (List.dropLast_subset _ hb)

/-- The call of the phase itself is in order, however it ends. -/
theorem IsBefore.inOrder_concat (h : IsBefore b.delivery attempts b.phase refused passed) :
    InOrder b.delivery attempts (refused ++ (passed ++ [b])) := by
  have hpos := b.phase.probesLeft_pos
  have hroom := h.room
  refine ⟨refused, passed ++ [b], rfl, by omega, h.failed, ?_, ?_⟩
  · have hcalls : (passed ++ [b]).map Busy.call = b.delivery.route.take (b.phase.rank + 1) := by
      rw [List.map_append, h.calls, b.delivery.take_rank_succ]
      rfl
    rw [hcalls]
    exact List.take_prefix _ _
  · rw [List.dropLast_concat]
    exact h.succeeded

theorem IsBefore.inOrder_seen (h : IsBefore b.delivery attempts b.phase refused passed) :
    InOrder b.delivery attempts (refused ++ passed ++ b.seen) := by
  rcases b.seen_cases with hseen | hseen
  · rw [hseen, List.append_nil]
    exact h.inOrder
  · rw [hseen, List.append_assoc]
    exact h.inOrder_concat

theorem eq_of_mem_seen {c : Busy} (h : c ∈ b.seen) : c = b := by
  rcases b.seen_cases with hseen | hseen
  · rw [hseen] at h
    cases h
  · rw [hseen] at h
    exact List.mem_singleton.mp h

theorem length_seen_le (b : Busy) : b.seen.length ≤ 1 := by
  rcases b.seen_cases with hseen | hseen
  · rw [hseen]
    exact Nat.zero_le 1
  · rw [hseen]
    exact Nat.le_refl 1

theorem Busy.Succeeds.seen (h : b.Succeeds) : b.seen = [b] := by
  obtain ⟨output, houtput⟩ := h
  unfold Busy.seen
  rw [if_neg]
  intro hmissing
  rw [hmissing] at houtput
  cases houtput

/-- The invariant from one phase to the next. -/
theorem IsBefore.next (h : IsBefore b.delivery attempts b.phase refused passed)
    (hnext : b.next = .ok (some phase)) :
    ∃ refused' passed', refused ++ passed ++ b.seen = refused' ++ passed' ∧
      IsBefore b.delivery attempts phase refused' passed' := by
  have hroom := h.room
  have hfollows : Delivery.Follows b.phase (b.call.output b.ending) phase :=
    Delivery.follows_of_next hnext
  generalize hphase : b.phase = before, hx : b.call.output b.ending = x at h hroom hfollows
  cases hfollows with
  | again hfewer =>
    -- Nothing has passed while probes fail, so another failed one can stand with the others.
    obtain rfl : passed = [] := by simpa [Delivery.Phase.rank] using h.calls
    have hcall : b.call = b.delivery.remote.shellCall Delivery.probeCommand := by
      rw [Busy.call, hphase]
      rfl
    have hfailed : ¬b.Succeeds := by
      rintro ⟨output, houtput⟩
      cases hx.symm.trans houtput
    refine ⟨refused ++ b.seen, [], by simp, ?_, ?_, rfl, nofun⟩
    · have hlength := length_seen_le b
      rw [List.length_append]
      simp only [Delivery.Phase.probesLeft] at hroom ⊢
      omega
    · intro c hc
      rcases List.mem_append.mp hc with hc | hc
      · exact h.failed c hc
      · rw [eq_of_mem_seen hc]
        exact ⟨hcall, hfailed⟩
  | passed hrank hprobes =>
    have hsucceeds : b.Succeeds := ⟨_, hx⟩
    refine ⟨refused, passed ++ [b], ?_, by omega, h.failed, ?_, ?_⟩
    · rw [hsucceeds.seen, List.append_assoc]
    · rw [hrank, Delivery.take_rank_succ, List.map_append, h.calls, ← hphase]
      rfl
    · intro c hc
      rcases List.mem_append.mp hc with hc | hc
      · exact h.succeeded c hc
      · rw [List.mem_singleton.mp hc]
        exact hsucceeds

end IsBefore

/-! ### Events at one place -/

/-- Calls that are made one after the other. -/
def oneByOne (calls : List Busy) : List Event := calls.flatMap fun b ↦ [.started b, .ended b]

/-- What happens to one delivery: its calls are in order, and none starts before the one made before
it has ended. -/
structure Delivers (d : Delivery) (attempts : Nat) (events : List Event) : Prop where
  inOrder : InOrder d attempts (made events)
  inTurn : events <+: oneByOne (made events)

section EventsAt

variable {place : Nat} {b : Busy}

@[simp]
theorem eventsAt_append (place : Nat) (before after : List Event) :
    eventsAt place (before ++ after) = eventsAt place before ++ eventsAt place after :=
  List.filter_append _ _

/-- An event of the call. -/
theorem eventsAt_seen_self {f : Busy → Event} (hf : ∀ b, (f b).busy = b) (b : Busy) :
    eventsAt b.place (b.seen.map f) = b.seen.map f := by
  rcases b.seen_cases with hseen | hseen
  · rw [hseen]
    rfl
  · simp [hseen, eventsAt, hf]

theorem eventsAt_seen_of_ne {f : Busy → Event} (hf : ∀ b, (f b).busy = b) (h : b.place ≠ place) :
    eventsAt place (b.seen.map f) = [] := by
  rcases b.seen_cases with hseen | hseen
  · rw [hseen]
    rfl
  · simp [hseen, eventsAt, hf, h]

theorem oneByOne_append (calls more : List Busy) :
    oneByOne (calls ++ more) = oneByOne calls ++ oneByOne more :=
  List.flatMap_append

theorem oneByOne_seen (b : Busy) : oneByOne b.seen = b.seen.map .started ++ b.seen.map .ended := by
  rcases b.seen_cases with hseen | hseen
  · rw [hseen]
    rfl
  · rw [hseen]
    rfl

@[simp]
theorem made_oneByOne (calls : List Busy) : made (oneByOne calls) = calls := by
  induction calls with
  | nil => rfl
  | cons b rest ih =>
    change b :: made (oneByOne rest) = b :: rest
    rw [ih]

end EventsAt

/-! ### The invariant of a rollout -/

/-- The delivery at a place has the call under way that comes after those it has made. -/
structure IsUnderWay (deliveries : List (Except Delivery.Error Delivery)) (attempts : Nat)
    (b : Busy) (events : List Event) : Prop where
  delivery : deliveries[b.place]? = some (.ok b.delivery)
  exists_before : ∃ refused passed, IsBefore b.delivery attempts b.phase refused passed ∧
    events = oneByOne (refused ++ passed) ++ b.seen.map .started

/-- At a place where nothing is under way, nothing has happened, or all calls have ended. -/
def IsAtRest (deliveries : List (Except Delivery.Error Delivery)) (attempts place : Nat)
    (events : List Event) : Prop :=
  events = [] ∨ ∃ d calls, deliveries[place]? = some (.ok d) ∧ InOrder d attempts calls ∧
    events = oneByOne calls

structure IsKept (deliveries : List (Except Delivery.Error Delivery)) (attempts : Nat)
    (events : List Event) (p : Progress) : Prop where
  places : (p.waiting.map (·.2) ++ p.busy.map (·.place)).Nodup
  waiting : ∀ w ∈ p.waiting, deliveries[w.2]? = some w.1 ∧ eventsAt w.2 events = []
  busy : ∀ b ∈ p.busy, IsUnderWay deliveries attempts b (eventsAt b.place events)
  rest : ∀ place, place ∉ p.busy.map (·.place) →
    IsAtRest deliveries attempts place (eventsAt place events)

section IsKept

variable {programs : Programs} {schedule : Schedule} {backoff : Backoff} {inOrder : Bool}
  {deliveries : List (Except Delivery.Error Delivery)} {attempts : Nat} {seen : List Event}
  {s : Session} {p : Progress}

theorem isKept_ofDeliveries (deliveries : List (Except Delivery.Error Delivery)) (attempts : Nat) :
    IsKept deliveries attempts [] (.ofDeliveries deliveries) := by
  constructor
  · change (deliveries.zipIdx.map Prod.snd ++ []).Nodup
    rw [List.append_nil, List.zipIdx_map_snd]
    exact List.nodup_range'
  · intro w hw
    exact ⟨List.mem_zipIdx_iff_getElem?.mp hw, rfl⟩
  · exact nofun
  · exact fun _ _ ↦ .inl rfl

/-- Failures are of no account. -/
theorem IsKept.fail (h : IsKept deliveries attempts seen p) (place : Nat) (e : Delivery.Error) :
    IsKept deliveries attempts seen (p.fail place e) := by
  constructor
  · rw [p.waiting_fail, p.busy_fail]
    exact h.places
  · rw [p.waiting_fail]
    exact h.waiting
  · rw [p.busy_fail]
    exact h.busy
  · rw [p.busy_fail]
    exact h.rest

theorem IsKept.dropWaiting {w : Except Delivery.Error Delivery × Nat}
    {rest : List (Except Delivery.Error Delivery × Nat)} (h : IsKept deliveries attempts seen p)
    (hwaiting : p.waiting = w :: rest) :
    IsKept deliveries attempts seen { p with waiting := rest } ∧
      w.2 ∉ rest.map (·.2) ++ p.busy.map (·.place) := by
  have hplaces := h.places
  have hwaits := h.waiting
  rw [hwaiting] at hplaces hwaits
  obtain ⟨hfresh, hplaces⟩ := List.nodup_cons.mp hplaces
  exact ⟨⟨hplaces, fun v hv ↦ hwaits v (List.mem_cons_of_mem w hv), h.busy, h.rest⟩, hfresh⟩

theorem begin_cases (programs : Programs) (s : Session) (p : Progress) (place : Nat) (d : Delivery)
    (phase : Delivery.Phase) :
    ((busyAt programs s place d phase).seen = [] ∧
        ∃ e, (begin programs s p place d phase).2 = p.fail place e) ∨
      (begin programs s p place d phase).2 =
        { p with busy := p.busy ++ [busyAt programs s place d phase] } := by
  have hending : (s.start programs (d.call phase)).2 = programs.ending s.calls (d.call phase) := by
    unfold Session.start
    split
    next hmissing => exact hmissing.symm
    next => rfl
  unfold begin
  dsimp only
  rw [hending]
  split
  next e hmissing hnext =>
    refine .inl ⟨?_, e, rfl⟩
    unfold Busy.seen
    exact if_pos hmissing
  next => exact .inr rfl

/-- A call begins at a place where nothing is under way. -/
theorem IsKept.begin (h : IsKept deliveries attempts seen p) {place : Nat} {d : Delivery}
    {phase : Delivery.Phase} {refused passed : List Busy}
    (hplace : place ∉ p.waiting.map (·.2) ++ p.busy.map (·.place))
    (hd : deliveries[place]? = some (.ok d)) (hbefore : IsBefore d attempts phase refused passed)
    (hseen : eventsAt place seen = oneByOne (refused ++ passed)) :
    IsKept deliveries attempts (seen ++ beginEvents programs s place d phase)
      (Rollout.begin programs s p place d phase).2 := by
  rcases begin_cases programs s p place d phase with ⟨hnothing, e, hfails⟩ | hbusy
  · rw [hfails, beginEvents, hnothing, List.map_nil, List.append_nil]
    exact h.fail place e
  · rw [hbusy]
    have hself : eventsAt place (seen ++ beginEvents programs s place d phase) =
        oneByOne (refused ++ passed) ++ (busyAt programs s place d phase).seen.map .started := by
      rw [eventsAt_append, hseen, beginEvents]
      exact congrArg _ (eventsAt_seen_self (fun _ ↦ rfl) (busyAt programs s place d phase))
    have hother : ∀ other ≠ place,
        eventsAt other (seen ++ beginEvents programs s place d phase) = eventsAt other seen := by
      intro other hne
      rw [eventsAt_append, beginEvents, eventsAt_seen_of_ne (fun _ ↦ rfl), List.append_nil]
      exact hne.symm
    obtain ⟨hwaiting, hidle⟩ := not_or.mp (fun hmem ↦ hplace (List.mem_append.mpr hmem))
    constructor
    · rw [List.map_append, ← List.append_assoc, List.nodup_append]
      refine ⟨h.places, List.pairwise_singleton _ _, ?_⟩
      intro a ha b hb heq
      obtain rfl := List.mem_singleton.mp hb
      exact hplace (heq ▸ ha)
    · intro w hw
      have hne : w.2 ≠ place := fun heq ↦ hwaiting (heq ▸ List.mem_map_of_mem hw)
      rw [hother w.2 hne]
      exact h.waiting w hw
    · intro b hb
      rcases List.mem_append.mp hb with hb | hb
      · have hne : b.place ≠ place := fun heq ↦ hidle (heq ▸ List.mem_map_of_mem hb)
        rw [hother b.place hne]
        exact h.busy b hb
      · rw [List.mem_singleton.mp hb]
        exact ⟨hd, refused, passed, hbefore, hself⟩
    · intro other hnot
      rw [List.map_append, List.mem_append, not_or] at hnot
      have hne : other ≠ place := fun heq ↦ hnot.2 (List.mem_singleton.mpr heq)
      rw [hother other hne]
      exact h.rest other hnot.1

/-- A call ends, and then nothing is under way at its place. -/
theorem IsKept.finish (h : IsKept deliveries attempts seen p) {b : Busy} {others : List Busy}
    (hbusy : p.busy.Perm (b :: others)) :
    IsKept deliveries attempts (seen ++ b.seen.map .ended) { p with busy := others } ∧
      b.place ∉ p.waiting.map (·.2) ++ others.map (·.place) ∧
      deliveries[b.place]? = some (.ok b.delivery) ∧
      ∃ refused passed, IsBefore b.delivery attempts b.phase refused passed ∧
        eventsAt b.place (seen ++ b.seen.map .ended) = oneByOne (refused ++ passed ++ b.seen) := by
  have hplaces : (p.waiting.map (·.2) ++ b.place :: others.map (·.place)).Nodup :=
    ((hbusy.map _).append_left _).nodup_iff.mp h.places
  obtain ⟨hfresh, hrest⟩ := List.nodup_cons.mp (List.perm_middle.nodup_iff.mp hplaces)
  obtain ⟨hd, refused, passed, hbefore, hevents⟩ := h.busy b (hbusy.mem_iff.mpr List.mem_cons_self)
  have hself : eventsAt b.place (seen ++ b.seen.map .ended) =
      oneByOne (refused ++ passed ++ b.seen) :=
    calc
      eventsAt b.place (seen ++ b.seen.map .ended) =
          eventsAt b.place seen ++ b.seen.map .ended := by
        rw [eventsAt_append, eventsAt_seen_self fun _ ↦ rfl]
      _ = oneByOne (refused ++ passed) ++ (b.seen.map .started ++ b.seen.map .ended) := by
        rw [hevents, List.append_assoc]
      _ = oneByOne (refused ++ passed ++ b.seen) := by
        rw [← oneByOne_seen, ← oneByOne_append]
  have hother : ∀ other ≠ b.place,
      eventsAt other (seen ++ b.seen.map .ended) = eventsAt other seen := by
    intro other hne
    rw [eventsAt_append, eventsAt_seen_of_ne (fun _ ↦ rfl) hne.symm, List.append_nil]
  refine ⟨⟨hrest, ?_, ?_, ?_⟩, hfresh, hd, refused, passed, hbefore, hself⟩
  · intro w hw
    have hne : w.2 ≠ b.place := fun heq ↦
      hfresh (heq ▸ List.mem_append_left _ (List.mem_map_of_mem hw))
    rw [hother w.2 hne]
    exact h.waiting w hw
  · intro c hc
    have hne : c.place ≠ b.place := fun heq ↦
      hfresh (heq ▸ List.mem_append_right _ (List.mem_map_of_mem hc))
    rw [hother c.place hne]
    exact h.busy c (hbusy.mem_iff.mpr (List.mem_cons_of_mem b hc))
  · intro place hplace
    by_cases heq : place = b.place
    · rw [heq, hself]
      exact .inr ⟨b.delivery, _, hd, hbefore.inOrder_seen, rfl⟩
    · rw [hother place heq]
      apply h.rest place
      rw [(hbusy.map _).mem_iff, List.map_cons, List.mem_cons, not_or]
      exact ⟨heq, hplace⟩

theorem IsKept.step (h : IsKept deliveries backoff.attempts seen p) :
    IsKept deliveries backoff.attempts (seen ++ stepEvents programs schedule backoff s p)
      (step programs schedule backoff s p).2 := by
  have hstep := stepsTo programs schedule backoff s p
  generalize Rollout.step programs schedule backoff s p = after,
    stepEvents programs schedule backoff s p = more at hstep ⊢
  cases hstep with
  | refused hwaiting =>
    rw [List.append_nil]
    exact (h.dropWaiting hwaiting).1.fail _ _
  | @begun d place rest hwaiting =>
    obtain ⟨hkept, hplace⟩ := h.dropWaiting hwaiting
    obtain ⟨hd, hnothing⟩ := h.waiting (.ok d, place) (hwaiting ▸ List.mem_cons_self)
    exact hkept.begin hplace hd (isBefore_probing d backoff) hnothing
  | idle hwaiting hbusy =>
    rw [List.append_nil]
    exact h
  | failed hwaiting hbusy hnext => exact (h.finish hbusy).1.fail _ _
  | done hwaiting hbusy hnext => exact (h.finish hbusy).1
  | followed hwaiting hbusy hnext =>
    obtain ⟨hkept, hplace, hd, refused, passed, hbefore, hevents⟩ := h.finish hbusy
    obtain ⟨refused', passed', hsplit, hnow⟩ := hbefore.next hnext
    rw [← List.append_assoc]
    exact hkept.begin hplace hd hnow (hsplit ▸ hevents)

theorem isKept_events (inOrder : Bool) (s : Session) (p : Progress) :
    ∀ seen, IsKept deliveries backoff.attempts seen p →
      ∃ p', IsKept deliveries backoff.attempts
        (seen ++ events programs schedule backoff inOrder s p) p' := by
  fun_induction Rollout.events programs schedule backoff inOrder s p with
  | case1 s p verdict hended =>
    intro seen h
    rw [List.append_nil]
    exact ⟨p, h⟩
  | case2 s p hopen next ih =>
    intro seen h
    rw [← List.append_assoc]
    exact ih _ h.step

/-- At each point of a rollout, what has happened at a place is part of one delivery. -/
theorem IsKept.delivers (h : IsKept deliveries attempts seen p) (place : Nat) :
    eventsAt place seen = [] ∨
      ∃ d, deliveries[place]? = some (.ok d) ∧ Delivers d attempts (eventsAt place seen) := by
  by_cases hbusy : place ∈ p.busy.map (·.place)
  · obtain ⟨b, hb, rfl⟩ := List.mem_map.mp hbusy
    obtain ⟨hd, refused, passed, hbefore, hevents⟩ := h.busy b hb
    have hmade : made (eventsAt b.place seen) = refused ++ passed ++ b.seen := by
      rw [hevents, made_append, made_oneByOne, made_map_started]
    refine .inr ⟨b.delivery, hd, ?_, ?_⟩
    · rw [hmade]
      exact hbefore.inOrder_seen
    · rw [hmade, hevents, oneByOne_append (refused ++ passed), oneByOne_seen, ← List.append_assoc]
      exact List.prefix_append _ _
  · rcases h.rest place hbusy with hnothing | ⟨d, calls, hd, hcalls, hevents⟩
    · exact .inl hnothing
    · have hmade : made (eventsAt place seen) = calls := by rw [hevents, made_oneByOne]
      refine .inr ⟨d, hd, ?_, ?_⟩
      · rw [hmade]
        exact hcalls
      · rw [hmade]
        exact ⟨[], by rw [List.append_nil, hevents]⟩

end IsKept

/-- In a rollout each delivery makes its calls in order, whatever the programs do and in whichever
order their calls end. -/
theorem delivers_runEvents (programs : Programs) (schedule : Schedule) (backoff : Backoff)
    (s : Session) (deliveries : List (Except Delivery.Error Delivery)) (place : Nat) :
    eventsAt place (runEvents programs schedule backoff s deliveries) = [] ∨
      ∃ d, deliveries[place]? = some (.ok d) ∧
        Delivers d backoff.attempts
          (eventsAt place (runEvents programs schedule backoff s deliveries)) := by
  obtain ⟨p, hkept⟩ := isKept_events (Activity.joinLimit < deliveries.length) s
    (.ofDeliveries deliveries) [] (isKept_ofDeliveries deliveries backoff.attempts)
  exact hkept.delivers place

end Rollout

end ClusterPlan
