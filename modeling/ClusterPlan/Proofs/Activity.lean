import ClusterPlan.Activity

/-!
# Chains and joins

Chains of activities obey the laws of a monad. An activity is timed when it makes its calls in the
order of time and none after it has ended. What is built from timed activities is timed, and a join
of one timed activity is that activity alone.

A join succeeds exactly when its members would succeed one after the other, and with the same
results. Which failure it ends in depends on the waits. Without any, it is the one that stands
first.
-/

namespace ClusterPlan.Activity

variable {κ ε α β γ : Type}

/-! ### Chains -/

@[simp]
theorem later_zero (calls : List (Nat × κ)) : later 0 calls = calls := by
  simp [later]

theorem later_append (waits : Nat) (calls more : List (Nat × κ)) :
    later waits (calls ++ more) = later waits calls ++ later waits more := by
  simp [later]

theorem later_later (waits more : Nat) (calls : List (Nat × κ)) :
    later waits (later more calls) = later (waits + more) calls := by
  simp [later, Nat.add_assoc]

theorem pure_andThen (a : α) (next : α → Activity κ ε β) :
    (pure a : Activity κ ε α).andThen next = next a := by
  simp [Activity.andThen, pure]

theorem andThen_pure (x : Activity κ ε α) : x.andThen pure = x := by
  obtain ⟨waits, calls, result⟩ := x
  cases result with
  | error e => rfl
  | ok a => simp [Activity.andThen, pure, later]

theorem andThen_assoc (x : Activity κ ε α) (next : α → Activity κ ε β)
    (last : β → Activity κ ε γ) :
    (x.andThen next).andThen last = x.andThen fun a ↦ (next a).andThen last := by
  obtain ⟨waits, calls, result⟩ := x
  cases result with
  | error e => rfl
  | ok a =>
    unfold Activity.andThen
    dsimp only
    cases (next a).result with
    | error e => rfl
    | ok b => simp [later_append, later_later, Nat.add_assoc]

theorem result_andThen (x : Activity κ ε α) (next : α → Activity κ ε β) :
    (x.andThen next).result = x.result >>= fun a ↦ (next a).result := by
  unfold Activity.andThen
  cases x.result with
  | error e => rfl
  | ok a => rfl

theorem result_andThen_eq_error_iff {x : Activity κ ε α} {next : α → Activity κ ε β} {e : ε} :
    (x.andThen next).result = .error e ↔
      x.result = .error e ∨ ∃ a, x.result = .ok a ∧ (next a).result = .error e := by
  rw [result_andThen]
  cases x.result with
  | error e' => simp [bind, Except.bind]
  | ok a => simp [bind, Except.bind]

theorem waits_andThen_eq_zero {x : Activity κ ε α} {next : α → Activity κ ε β}
    (hx : x.waits = 0) (hnext : ∀ a, x.result = .ok a → (next a).waits = 0) :
    (x.andThen next).waits = 0 := by
  unfold Activity.andThen
  cases hresult : x.result with
  | error e => exact hx
  | ok a =>
    change x.waits + (next a).waits = 0
    rw [hx, hnext a hresult]

theorem log_andThen {x : Activity κ ε α} {a : α} (h : x.result = .ok a)
    (next : α → Activity κ ε β) : (x.andThen next).log = x.log ++ (next a).log := by
  unfold Activity.andThen
  rw [h]
  simp [log, later, Function.comp_def]

theorem log_andThen_of_eq_error {x : Activity κ ε α} {e : ε} (h : x.result = .error e)
    (next : α → Activity κ ε β) : (x.andThen next).log = x.log := by
  unfold Activity.andThen
  rw [h]
  rfl

theorem log_andThen_of_silent (x : Activity κ ε α) {next : α → Activity κ ε β}
    (h : ∀ a, (next a).log = []) : (x.andThen next).log = x.log := by
  cases hx : x.result with
  | error e => exact log_andThen_of_eq_error hx next
  | ok a => rw [log_andThen hx, h a, List.append_nil]

/-! ### Time -/

structure Timed (x : Activity κ ε α) : Prop where
  ordered : x.calls.Pairwise (·.1 ≤ ·.1)
  bounded : ∀ call ∈ x.calls, call.1 ≤ x.waits

theorem timed_fail (e : ε) : (fail e : Activity κ ε α).Timed := ⟨.nil, by simp [fail]⟩

theorem timed_pure (a : α) : (pure a : Activity κ ε α).Timed := ⟨.nil, nofun⟩

theorem timed_ofExcept (result : Except ε α) : (ofExcept result : Activity κ ε α).Timed :=
  ⟨.nil, nofun⟩

theorem timed_call (c : κ) (waits : Nat) (result : Except ε α) :
    (call c waits result).Timed :=
  ⟨List.pairwise_singleton _ _, by simp [call]⟩

/-- What comes next makes its calls when the first part has ended. -/
theorem Timed.andThen {x : Activity κ ε α} {next : α → Activity κ ε β} (hx : x.Timed)
    (hnext : ∀ a, (next a).Timed) : (x.andThen next).Timed := by
  unfold Activity.andThen
  cases hresult : x.result with
  | error e => exact ⟨hx.ordered, hx.bounded⟩
  | ok a =>
    have hy := hnext a
    constructor
    · dsimp only
      rw [List.pairwise_append]
      refine ⟨hx.ordered, ?_, ?_⟩
      · rw [later, List.pairwise_map]
        exact hy.ordered.imp fun hle ↦ Nat.add_le_add_left hle _
      · intro first hfirst second hsecond
        obtain ⟨call, -, rfl⟩ := List.mem_map.mp hsecond
        exact Nat.le_trans (hx.bounded first hfirst) (Nat.le_add_right _ _)
    · intro call hcall
      rcases List.mem_append.mp hcall with hcall | hcall
      · exact Nat.le_trans (hx.bounded call hcall) (Nat.le_add_right _ _)
      · obtain ⟨later, hlater, rfl⟩ := List.mem_map.mp hcall
        exact Nat.add_le_add_left (hy.bounded later hlater) _

/-! ### Joins -/

theorem pairwise_inTime (calls : List (Nat × κ)) : (inTime calls).Pairwise (·.1 ≤ ·.1) := by
  have hsorted : (inTime calls).Pairwise fun a b ↦ decide (a.1 ≤ b.1) = true := by
    unfold inTime
    apply List.pairwise_mergeSort
    · intro a b c hab hbc
      exact decide_eq_true (Nat.le_trans (of_decide_eq_true hab) (of_decide_eq_true hbc))
    · intro a b
      simpa using Nat.le_total a.1 b.1
  exact hsorted.imp of_decide_eq_true

theorem mem_inTime {calls : List (Nat × κ)} {call : Nat × κ} :
    call ∈ inTime calls ↔ call ∈ calls :=
  List.mem_mergeSort

theorem inTime_eq_self {calls : List (Nat × κ)} (h : calls.Pairwise (·.1 ≤ ·.1)) :
    inTime calls = calls :=
  List.mergeSort_of_pairwise (h.imp decide_eq_true)

theorem le_longestWait {members : List (Activity κ ε α)} {x : Activity κ ε α}
    (h : x ∈ members) : x.waits ≤ longestWait members := by
  have hfold : ∀ (members : List (Activity κ ε α)) (n : Nat),
      n ≤ members.foldl (fun n x ↦ max n x.waits) n ∧
        ∀ x ∈ members, x.waits ≤ members.foldl (fun n x ↦ max n x.waits) n := by
    intro members
    induction members with
    | nil => simp
    | cons first rest ih =>
      intro n
      obtain ⟨hstart, hrest⟩ := ih (max n first.waits)
      refine ⟨Nat.le_trans (Nat.le_max_left _ _) hstart, ?_⟩
      rintro x (_ | ⟨_, hx⟩)
      · exact Nat.le_trans (Nat.le_max_right _ _) hstart
      · exact hrest x hx
  exact (hfold members 0).2 x h

/-- Calls later than a failure are cut off, so whatever a join that fails has made is timed. -/
theorem timed_join {members : List (Activity κ ε α)} (h : ∀ x ∈ members, x.Timed) :
    (join members).Timed := by
  unfold join
  cases ending? members with
  | none =>
    refine ⟨pairwise_inTime _, ?_⟩
    intro call hcall
    obtain ⟨x, hx, hcall⟩ := List.mem_flatMap.mp (mem_inTime.mp hcall)
    exact Nat.le_trans ((h x hx).bounded call hcall) (le_longestWait hx)
  | some f =>
    refine ⟨pairwise_inTime _, ?_⟩
    intro call hcall
    obtain ⟨⟨x, place⟩, -, hcall⟩ := List.mem_flatMap.mp (mem_inTime.mp hcall)
    have htime := (List.mem_filter.mp hcall).2
    simp only [Bool.or_eq_true, Bool.and_eq_true, decide_eq_true_eq, beq_iff_eq] at htime
    rcases htime with hlt | ⟨heq, -⟩
    · exact Nat.le_of_lt hlt
    · exact Nat.le_of_eq heq

theorem join_nil : join ([] : List (Activity κ ε α)) = pure [] := by
  have hcalls : inTime ([] : List (Nat × κ)) = [] := List.mergeSort_nil
  simp only [join, ending?, failures, List.flatMap_nil, hcalls]
  rfl

theorem Timed.join_singleton {x : Activity κ ε α} (h : x.Timed) :
    join [x] = x.andThen fun a ↦ pure [a] := by
  unfold join Activity.andThen
  cases hresult : x.result with
  | ok a =>
    have hending : ending? [x] = none := by simp [ending?, failures, hresult]
    have hcalls : inTime ([x].flatMap (·.calls)) = x.calls := by
      simpa using inTime_eq_self h.ordered
    rw [hending, hcalls]
    simp [longestWait, successes, hresult, pure, later]
  | error e =>
    have hending : ending? [x] = some ⟨0, x.waits, e⟩ := by
      simp [ending?, failures, hresult, soonest, joinLimit]
    have hcalls : callsUntil ⟨0, x.waits, e⟩ [x] = x.calls := by
      have hall : ∀ call ∈ x.calls, call.1 < x.waits ∨ call.1 = x.waits := by
        intro call hcall
        exact Nat.lt_or_eq_of_le (h.bounded call hcall)
      simpa [callsUntil] using hall
    rw [hending]
    simp only [hcalls, inTime_eq_self h.ordered]

/-! ### Results of joins -/

section Results

variable {members : List (Activity κ ε α)}

theorem exists_of_mem_failures {place : Nat} {f : Failure ε} (h : f ∈ failures place members) :
    ∃ x ∈ members, x.result = .error f.error ∧ x.waits = f.waits := by
  fun_induction failures place members with
  | case1 => cases h
  | case2 place x rest e hresult ih =>
    rcases List.mem_cons.mp h with rfl | hrest
    · exact ⟨x, List.mem_cons_self, hresult, rfl⟩
    · obtain ⟨y, hy, hfailure⟩ := ih hrest
      exact ⟨y, List.mem_cons_of_mem x hy, hfailure⟩
  | case3 place x rest a hresult ih =>
    obtain ⟨y, hy, hfailure⟩ := ih h
    exact ⟨y, List.mem_cons_of_mem x hy, hfailure⟩

/-- One after the other, the members end in the failure that stands first, whatever places they are
counted from. -/
theorem mapM_result_eq (place : Nat) (members : List (Activity κ ε α)) :
    members.mapM (·.result) =
      match failures place members with
      | [] => .ok (successes members)
      | f :: _ => .error f.error := by
  induction members generalizing place with
  | nil => rfl
  | cons x rest ih =>
    rw [List.mapM_cons, failures, successes]
    cases x.result with
    | error e => rfl
    | ok a =>
      rw [ih (place + 1)]
      dsimp only
      split
      next hnone => rfl
      next f others hsome => rfl

theorem soonest_mem (best : Failure ε) (others : List (Failure ε)) :
    soonest best others ∈ best :: others := by
  induction others generalizing best with
  | nil => exact List.mem_singleton_self best
  | cons f others ih =>
    rw [soonest]
    rcases List.mem_cons.mp (ih (if f.waits < best.waits then f else best)) with heq | hmem
    · rw [heq]
      split
      · simp
      · simp
    · exact List.mem_cons_of_mem best (List.mem_cons_of_mem f hmem)

theorem soonest_eq_self {best : Failure ε} (h : best.waits = 0) (others : List (Failure ε)) :
    soonest best others = best := by
  induction others with
  | nil => rfl
  | cons f others ih =>
    have hlater : ¬f.waits < best.waits := by omega
    rw [soonest, if_neg hlater, ih]

theorem longestWait_eq_zero (h : ∀ x ∈ members, x.waits = 0) : longestWait members = 0 := by
  unfold longestWait
  induction members with
  | nil => rfl
  | cons x rest ih =>
    obtain ⟨hx, hrest⟩ := List.forall_mem_cons.mp h
    rw [List.foldl_cons, hx, Nat.max_self]
    exact ih hrest

theorem ending?_eq_none_iff : ending? members = none ↔ failures 0 members = [] := by
  unfold ending?
  cases failures 0 members with
  | nil => simp
  | cons first others =>
    dsimp only
    split
    · simp
    · simp

theorem exists_of_ending? {f : Failure ε} (h : ending? members = some f) :
    ∃ x ∈ members, x.result = .error f.error := by
  unfold ending? at h
  cases hfailures : failures 0 members with
  | nil => simp [hfailures] at h
  | cons first others =>
    have hfrom : ∃ g ∈ failures 0 members, g.error = f.error := by
      rw [hfailures] at h ⊢
      dsimp only at h
      split at h
      · obtain rfl := Option.some.inj h
        exact ⟨_, soonest_mem first others, rfl⟩
      · obtain rfl := Option.some.inj h
        exact ⟨first, List.mem_cons_self, rfl⟩
    obtain ⟨g, hg, herror⟩ := hfrom
    obtain ⟨x, hx, hresult, -⟩ := exists_of_mem_failures hg
    exact ⟨x, hx, herror ▸ hresult⟩

/-- Without waits, the failure that stands first is the one that arrives first. -/
theorem ending?_of_waits_eq_zero (h : ∀ x ∈ members, x.waits = 0) :
    ending? members = (failures 0 members).head? := by
  unfold ending?
  cases hfailures : failures 0 members with
  | nil => rfl
  | cons first others =>
    have hfirst : first.waits = 0 := by
      obtain ⟨x, hx, -, hwaits⟩ := exists_of_mem_failures (hfailures ▸ List.mem_cons_self)
      exact hwaits ▸ h x hx
    have htaken : longestWait (members.take (first.place + 1)) = 0 :=
      longestWait_eq_zero fun x hx ↦ h x (List.mem_of_mem_take hx)
    dsimp only
    rw [soonest_eq_self hfirst, htaken, ← hfirst, ite_self]
    rfl

theorem result_join (members : List (Activity κ ε α)) :
    (join members).result =
      match ending? members with
      | none => .ok (successes members)
      | some f => .error f.error := by
  unfold join
  cases ending? members with
  | none => rfl
  | some f => rfl

/-- A join succeeds with what its members would give one after the other. -/
theorem result_join_eq_ok_iff {values : List α} :
    (join members).result = .ok values ↔ members.mapM (·.result) = .ok values := by
  rw [result_join, mapM_result_eq 0]
  cases hfailures : failures 0 members with
  | nil => rw [ending?_eq_none_iff.mpr hfailures]
  | cons first others =>
    have hending : ending? members ≠ none := by
      rw [ne_eq, ending?_eq_none_iff, hfailures]
      simp
    obtain ⟨f, hf⟩ := Option.ne_none_iff_exists'.mp hending
    rw [hf]
    simp

theorem exists_of_result_join_eq_error {e : ε} (h : (join members).result = .error e) :
    ∃ x ∈ members, x.result = .error e := by
  rw [result_join] at h
  cases hending : ending? members with
  | none =>
    rw [hending] at h
    cases h
  | some f =>
    rw [hending] at h
    obtain rfl := Except.error.inj h
    exact exists_of_ending? hending

/-- Without waits, a join ends as its members do one after the other. -/
theorem result_join_of_waits_eq_zero (h : ∀ x ∈ members, x.waits = 0) :
    (join members).result = members.mapM (·.result) := by
  rw [result_join, ending?_of_waits_eq_zero h, mapM_result_eq 0]
  cases failures 0 members with
  | nil => rfl
  | cons first others => rfl

theorem waits_join_eq_zero (h : ∀ x ∈ members, x.waits = 0) : (join members).waits = 0 := by
  unfold join
  rw [ending?_of_waits_eq_zero h]
  cases hfailures : failures 0 members with
  | nil => exact longestWait_eq_zero h
  | cons first others =>
    obtain ⟨x, hx, -, hwaits⟩ := exists_of_mem_failures (hfailures ▸ List.mem_cons_self)
    change first.waits = 0
    rw [← hwaits, h x hx]

/-- A join of members that have ended already has ended itself. -/
theorem join_map_pure (f : α → β) (as : List α) :
    join (as.map fun a ↦ (pure (f a) : Activity κ ε β)) = pure (as.map f) := by
  have hfailures : ∀ place : Nat,
      failures place (as.map fun a ↦ (pure (f a) : Activity κ ε β)) = [] := by
    induction as with
    | nil => exact fun _ ↦ rfl
    | cons a as ih => exact fun place ↦ ih (place + 1)
  have hsuccesses : successes (as.map fun a ↦ (pure (f a) : Activity κ ε β)) = as.map f := by
    clear hfailures
    induction as with
    | nil => rfl
    | cons a as ih => exact congrArg (f a :: ·) ih
  have hcalls : (as.map fun a ↦ (pure (f a) : Activity κ ε β)).flatMap (·.calls) = [] := by
    rw [List.flatMap_map, List.flatMap_eq_nil_iff]
    exact fun _ _ ↦ rfl
  have hwaits : longestWait (as.map fun a ↦ (pure (f a) : Activity κ ε β)) = 0 := by
    apply longestWait_eq_zero
    intro x hx
    obtain ⟨a, -, rfl⟩ := List.mem_map.mp hx
    rfl
  have hcut : inTime ([] : List (Nat × κ)) = [] := List.mergeSort_nil
  unfold join
  rw [ending?_eq_none_iff.mpr (hfailures 0)]
  dsimp only
  rw [hsuccesses, hcalls, hwaits, hcut]
  rfl

end Results

/-! ### Joins that end at once -/

/-- The activity makes its calls and ends without waiting. -/
structure IsImmediate (x : Activity κ ε α) : Prop where
  waits : x.waits = 0
  calls : ∀ call ∈ x.calls, call.1 = 0

section IsImmediate

variable {members : List (Activity κ ε α)}

theorem isImmediate_pure (a : α) : (pure a : Activity κ ε α).IsImmediate := ⟨rfl, nofun⟩

theorem isImmediate_call (c : κ) (result : Except ε α) : (call c 0 result).IsImmediate :=
  ⟨rfl, by simp [call]⟩

theorem IsImmediate.andThen {x : Activity κ ε α} {next : α → Activity κ ε β} (hx : x.IsImmediate)
    (hnext : ∀ a, (next a).IsImmediate) : (x.andThen next).IsImmediate := by
  refine ⟨waits_andThen_eq_zero hx.waits fun a _ ↦ (hnext a).waits, ?_⟩
  unfold Activity.andThen
  cases x.result with
  | error e => exact hx.calls
  | ok a =>
    dsimp only
    rw [hx.waits, later_zero]
    intro call hcall
    exact (List.mem_append.mp hcall).elim (hx.calls call) ((hnext a).calls call)

/-- The members up to the one that fails make all of their calls, and the others none. -/
theorem callsUntil_eq_take {f : Failure ε} (hf : f.waits = 0)
    (h : ∀ x ∈ members, x.IsImmediate) :
    callsUntil f members = (members.take (f.place + 1)).flatMap (·.calls) := by
  unfold callsUntil
  suffices hfrom : ∀ place : Nat, ((members.zipIdx place).flatMap fun member ↦
      member.1.calls.filter fun call ↦
        call.1 < f.waits || (call.1 == f.waits && member.2 ≤ f.place)) =
        (members.take (f.place + 1 - place)).flatMap (·.calls) from hfrom 0
  induction members with
  | nil => simp
  | cons x rest ih =>
    intro place
    obtain ⟨hx, hrest⟩ := List.forall_mem_cons.mp h
    rw [List.zipIdx_cons, List.flatMap_cons, ih hrest (place + 1)]
    dsimp only
    by_cases hplace : place ≤ f.place
    · have hall : (x.calls.filter fun call ↦
          call.1 < f.waits || (call.1 == f.waits && place ≤ f.place)) = x.calls := by
        rw [List.filter_eq_self]
        intro call hcall
        simp [hx.calls call hcall, hf, hplace]
      have hcount : f.place + 1 - place = (f.place + 1 - (place + 1)) + 1 := by omega
      rw [hall, hcount, List.take_succ_cons, List.flatMap_cons]
    · have hnone : (x.calls.filter fun call ↦
          call.1 < f.waits || (call.1 == f.waits && place ≤ f.place)) = [] := by
        rw [List.filter_eq_nil_iff]
        intro call hcall
        simp [hf, hplace]
      have hcount : f.place + 1 - place = 0 := by omega
      have hcount' : f.place + 1 - (place + 1) = 0 := by omega
      rw [hnone, hcount, hcount', List.take_zero, List.take_zero, List.flatMap_nil,
        List.nil_append]

theorem log_eq_flatMap {x : Activity κ ε β} (h : ∀ y ∈ members, y.IsImmediate)
    (hcalls : x.calls = inTime (members.flatMap (·.calls))) : x.log = members.flatMap log := by
  have hordered : (members.flatMap (·.calls)).Pairwise (·.1 ≤ ·.1) := by
    apply List.pairwise_of_forall_mem_list
    have hzero : ∀ call ∈ members.flatMap (·.calls), call.1 = 0 := by
      intro call hcall
      obtain ⟨y, hy, hcall⟩ := List.mem_flatMap.mp hcall
      exact (h y hy).calls call hcall
    intro a ha b hb
    exact Nat.le_of_eq ((hzero a ha).trans (hzero b hb).symm)
  rw [log, hcalls, inTime_eq_self hordered, List.map_flatMap]
  rfl

theorem log_join_of_eq_ok (h : ∀ x ∈ members, x.IsImmediate) {values : List α}
    (hok : (join members).result = .ok values) : (join members).log = members.flatMap log := by
  apply log_eq_flatMap h
  rw [result_join] at hok
  unfold join
  cases hending : ending? members with
  | none => rfl
  | some f =>
    rw [hending] at hok
    cases hok

theorem failures_append {before rest : List (Activity κ ε α)}
    (hbefore : ∀ x ∈ before, ∃ a, x.result = .ok a) (place : Nat) :
    failures place (before ++ rest) = failures (place + before.length) rest := by
  induction before generalizing place with
  | nil => rfl
  | cons x before ih =>
    obtain ⟨⟨a, ha⟩, hbefore⟩ := List.forall_mem_cons.mp hbefore
    have hplace : place + 1 + before.length = place + (x :: before).length := by
      rw [List.length_cons]
      omega
    rw [List.cons_append, failures, ha]
    dsimp only
    rw [ih hbefore, hplace]

/-- What stands behind the member that fails first is not begun. -/
theorem log_join_of_eq_error {before after : List (Activity κ ε α)} {x : Activity κ ε α} {e : ε}
    (h : ∀ y ∈ before ++ x :: after, y.IsImmediate)
    (hbefore : ∀ y ∈ before, ∃ a, y.result = .ok a) (hx : x.result = .error e) :
    (join (before ++ x :: after)).log = (before ++ [x]).flatMap log := by
  have hwaits : x.waits = 0 := (h x (by simp)).waits
  have hending : ending? (before ++ x :: after) = some ⟨before.length, x.waits, e⟩ := by
    rw [ending?_of_waits_eq_zero fun y hy ↦ (h y hy).waits, failures_append hbefore, failures, hx,
      Nat.zero_add]
    rfl
  have hbegun : ∀ y ∈ before ++ [x], y.IsImmediate := by
    intro y hy
    apply h y
    rw [List.append_cons]
    exact List.mem_append_left after hy
  apply log_eq_flatMap hbegun
  unfold join
  rw [hending]
  dsimp only
  rw [callsUntil_eq_take hwaits h]
  have hlength : (before ++ [x]).length = before.length + 1 := by simp
  rw [List.append_cons, List.take_left' hlength]

end IsImmediate

end ClusterPlan.Activity
