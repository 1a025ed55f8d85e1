import ClusterPlan.Command.Action
import ClusterPlan.Proofs.Except
import ClusterPlan.Proofs.Files.Change
import ClusterPlan.Proofs.Program.Session

/-!
# Running actions

An action run on a session ends in a result and leaves a session behind, also where it fails. Calls
are only ever added, and a sequence of actions adds the calls of its parts.
-/

namespace ClusterPlan.Action

variable {α β : Type}

/-- The result of an action on a session, and the session that it leaves. -/
def on (x : Action α) (s : Session) : Except CommandError α × Session := x.run.run s

section Running

variable {s s' : Session} {e : CommandError}

theorem on_files : Action.files.on s = (.ok s.files, s) := rfl

theorem on_ofExcept (result : Except CommandError α) : (ofExcept result).on s = (result, s) := rfl

theorem on_bind (x : Action α) (f : α → Action β) :
    (x >>= f).on s =
      match x.on s with
      | (.ok a, middle) => (f a).on middle
      | (.error e, middle) => (.error e, middle) := by
  change (match x.on s with
    | (result, middle) => StateT.run (ExceptT.bindCont f result) middle) = _
  cases x.on s with
  | mk result middle =>
    cases result with
    | error e => rfl
    | ok a => rfl

theorem on_tryCatch (x : Action α) (handle : CommandError → Action α) :
    (tryCatch x handle).on s =
      match x.on s with
      | (.ok a, after) => (.ok a, after)
      | (.error e, after) => (handle e).on after := by
  have hrun : x.run.run s = StateT.run x s := rfl
  simp only [on, tryCatch, tryCatchThe, MonadExceptOf.tryCatch, ExceptT.tryCatch, ExceptT.run_mk,
    StateT.run_bind]
  rw [hrun]
  cases StateT.run x s with
  | mk result after =>
    cases result with
    | error e => rfl
    | ok a => rfl

theorem on_change (schedule : Change.Schedule) (writing : Artifact.Writing) :
    (change schedule writing).on s =
      ((writing.run schedule s.files).2.mapError .artifact,
        { s with files := (writing.run schedule s.files).1 }) := by
  rfl

theorem on_change_eq_ok_iff {schedule : Change.Schedule} {writing : Artifact.Writing} {u : Unit} :
    (change schedule writing).on s = (.ok u, s') ↔
      writing.run schedule s.files = (s'.files, .ok ()) ∧ s'.calls = s.calls := by
  rw [on_change, Prod.mk.injEq, Except.mapError_eq_ok_iff]
  constructor
  · rintro ⟨hresult, rfl⟩
    exact ⟨Prod.ext rfl hresult, rfl⟩
  · rintro ⟨hrun, hcalls⟩
    exact ⟨congrArg Prod.snd hrun, by rw [hrun, ← hcalls]⟩

theorem on_generation (generate : Session → Generated Program.Call) :
    (generation generate).on s =
      ((generate s).result.mapError .artifact,
        ⟨(generate s).tree, s.calls ++ (generate s).calls⟩) := rfl

theorem on_discard (x : Action α) :
    (discard x).on s = ((x.on s).1.map fun _ ↦ (), (x.on s).2) := by
  have hdiscard : discard x = x >>= fun _ ↦ pure () := rfl
  rw [hdiscard, on_bind]
  cases x.on s with
  | mk result after =>
    cases result with
    | error e => rfl
    | ok a => rfl

/-- What was done by an attempt stays done. -/
theorem on_attempt (x : Action α) : (attempt x).on s = (.ok (), (x.on s).2) := by
  unfold attempt
  change (tryCatch (discard x) fun _ ↦ pure ()).on s = _
  rw [on_tryCatch, on_discard]
  cases x.on s with
  | mk result after =>
    cases result with
    | error e => rfl
    | ok a => rfl

theorem on_discard_eq_error_iff {x : Action α} :
    (discard x).on s = (.error e, s') ↔ x.on s = (.error e, s') := by
  rw [on_discard]
  cases x.on s with
  | mk result after => simp [Except.map_eq_error_iff]

theorem on_discard_eq_ok_iff {x : Action α} {u : Unit} :
    (discard x).on s = (.ok u, s') ↔ ∃ a, x.on s = (.ok a, s') := by
  rw [on_discard]
  cases x.on s with
  | mk result after => simp [Except.map_eq_ok_iff]

theorem on_bind_eq_error_iff {x : Action α} {f : α → Action β} :
    (x >>= f).on s = (.error e, s') ↔
      x.on s = (.error e, s') ∨
        ∃ a middle, x.on s = (.ok a, middle) ∧ (f a).on middle = (.error e, s') := by
  rw [on_bind]
  cases x.on s with
  | mk result after =>
    cases result with
    | error e' => simp
    | ok a => simp [and_assoc]

theorem on_ofExcept_bind_eq_ok_iff {result : Except CommandError α} {f : α → Action β} {b : β} :
    (ofExcept result >>= f).on s = (.ok b, s') ↔
      ∃ a, result = .ok a ∧ (f a).on s = (.ok b, s') := by
  rw [on_bind, on_ofExcept]
  cases result with
  | error e' => simp
  | ok a => simp

theorem on_bind_eq_ok_iff {x : Action α} {f : α → Action β} {b : β} :
    (x >>= f).on s = (.ok b, s') ↔
      ∃ a middle, x.on s = (.ok a, middle) ∧ (f a).on middle = (.ok b, s') := by
  rw [on_bind]
  cases x.on s with
  | mk result after =>
    cases result with
    | error e' => simp
    | ok a => simp [and_assoc]

theorem on_files_bind (f : FileTree → Action β) : (files >>= f).on s = (f s.files).on s := by
  rw [on_bind, on_files]

theorem on_ofExcept_bind_eq_error_iff {result : Except CommandError α} {f : α → Action β} :
    (ofExcept result >>= f).on s = (.error e, s') ↔
      (result = .error e ∧ s' = s) ∨ ∃ a, result = .ok a ∧ (f a).on s = (.error e, s') := by
  rw [on_bind, on_ofExcept]
  cases result with
  | error e' => simp [eq_comm]
  | ok a => simp

end Running

/-! ### Calls -/

/-- Whatever the action ends in, it makes calls of a kind only. -/
def CallsOnly (q : Program.Call → Prop) (x : Action α) : Prop :=
  ∀ s : Session, s.Continues q (x.on s).2

section CallsOnly

variable {q : Program.Call → Prop} {x : Action α}

theorem callsOnly_ofExcept (result : Except CommandError α) : (ofExcept result).CallsOnly q :=
  fun s ↦ Session.Continues.refl s

theorem callsOnly_pure (a : α) : (pure a : Action α).CallsOnly q :=
  fun s ↦ Session.Continues.refl s

theorem callsOnly_files : files.CallsOnly q := fun s ↦ Session.Continues.refl s

theorem callsOnly_call {c : Program.Call} (h : q c) (programs : Programs) :
    (call programs c).CallsOnly q :=
  fun _ ↦ Session.continues_run h

theorem callsOnly_change (schedule : Change.Schedule) (writing : Artifact.Writing) :
    (change schedule writing).CallsOnly q :=
  fun _ ↦ Session.continues_of_calls_eq rfl

theorem callsOnly_generation {generate : Session → Generated Program.Call}
    (h : ∀ s, ∀ c ∈ (generate s).calls, q c) : (generation generate).CallsOnly q :=
  fun s ↦ ⟨(generate s).calls, rfl, h s⟩

theorem CallsOnly.bind {f : α → Action β} (hx : x.CallsOnly q) (hf : ∀ a, (f a).CallsOnly q) :
    (x >>= f).CallsOnly q := by
  intro s
  have hmiddle := hx s
  rw [on_bind]
  cases hrun : x.on s with
  | mk result middle =>
    rw [hrun] at hmiddle
    cases result with
    | error e => exact hmiddle
    | ok a => exact hmiddle.trans (hf a middle)

theorem CallsOnly.mono {r : Program.Call → Prop} (hx : x.CallsOnly q)
    (hqr : ∀ call, q call → r call) : x.CallsOnly r :=
  fun s ↦ (hx s).mono hqr

theorem CallsOnly.discard (hx : x.CallsOnly q) : (discard x).CallsOnly q := by
  intro s
  rw [on_discard]
  exact hx s

end CallsOnly

end ClusterPlan.Action
