import ClusterPlan.Proofs.Command.Steps
import ClusterPlan.Proofs.Rollout.Course

/-!
# Teardown of a failed run

A run of `apply` has something to tear down once the provisioner is ready: the document is loaded,
the provisioning files are written, and `terraform init` has succeeded. If a step fails from there
on, and only then, `terraform destroy` is called, provided that it was asked for. It is the last call
of the run, and the run ends in the error of the failed step, whatever becomes of the call.
-/

namespace ClusterPlan

/-- A call that gives up what was provisioned. -/
def Program.Call.IsDestroy (call : Program.Call) : Prop :=
  ∃ directory, call = Terraform.destroyCall directory

namespace Command

/-! ### Failures -/

section Steps

variable {around : Surroundings} {o : ProjectOptions} {project : Project} {s ready : Session}

/-- That a failure tears everything down was asked for, by the flag or in the settings. -/
def Asked (project : Project) (destroyOnFailure : Bool) : Prop :=
  destroyOnFailure = true ∨ project.settings.apply.destroyOnFailure = true

/-- A step behind the preparation fails, with its error and the session that it leaves. -/
inductive Fails (around : Surroundings) (project : Project) (ready : Session) :
    CommandError → Session → Prop where
  | applying {e : CommandError} {failed : Session}
    (h : (applying around project).on ready = (.error e, failed)) :
    Fails around project ready e failed
  | reading {output : String} {e : CommandError} {applied : Session}
    (happlied : (Command.applying around project).on ready = (.ok output, applied))
    (h : project.state applied.files = .error e) : Fails around project ready e applied
  | checking {output : String} {e : CommandError} {applied : Session} {state : State}
    (happlied : (Command.applying around project).on ready = (.ok output, applied))
    (hstate : project.state applied.files = .ok state)
    (h : checkAddresses project.registry state = .error e) : Fails around project ready e applied
  | generating {e : CommandError} {applied failed : Session} {state : State}
    (hprovisioned : Provisioned around project ready applied state)
    (h : (manifesting around project state).on applied = (.error e, failed)) :
    Fails around project ready e failed
  | delivering {e : CommandError} {applied generated failed : Session} {state : State}
    {deployments : List Deployment} (hprovisioned : Provisioned around project ready applied state)
    (hgenerated : (manifesting around project state).on applied = (.ok deployments, generated))
    (h : (deliver around project deployments).on generated = (.error e, failed)) :
    Fails around project ready e failed

/-- The steps behind the preparation fail as the one of them does that fails. -/
theorem rollOut_on_eq_error_iff {e : CommandError} {failed : Session} :
    (rollOut around project).on ready = (.error e, failed) ↔ Fails around project ready e failed := by
  rw [rollOut_eq]
  constructor
  · intro h
    rcases Action.on_bind_eq_error_iff.mp h with h | ⟨_, applied, happlied, h⟩
    · exact .applying (Action.on_discard_eq_error_iff.mp h)
    obtain ⟨output, happlied⟩ := Action.on_discard_eq_ok_iff.mp happlied
    rw [Action.on_files_bind] at h
    rcases Action.on_ofExcept_bind_eq_error_iff.mp h with ⟨hstate, rfl⟩ | ⟨state, hstate, h⟩
    · exact .reading happlied hstate
    rcases Action.on_ofExcept_bind_eq_error_iff.mp h with ⟨haddressed, rfl⟩ | ⟨_, haddressed, h⟩
    · exact .checking happlied hstate haddressed
    have hprovisioned : Provisioned around project ready applied state :=
      ⟨⟨output, happlied⟩, hstate, haddressed⟩
    rcases Action.on_bind_eq_error_iff.mp h with h | ⟨deployments, generated, hgenerated, h⟩
    · exact .generating hprovisioned h
    rcases Action.on_bind_eq_error_iff.mp h with h | ⟨_, _, _, h⟩
    · exact .delivering hprovisioned hgenerated h
    · cases h
  · intro h
    cases h with
    | applying h =>
      simp only [Action.on_bind, Action.on_discard, h, Except.map]
    | reading happlied h =>
      simp only [Action.on_bind, Action.on_discard, happlied, Except.map, Action.on_files,
        Action.on_ofExcept, h]
    | checking happlied hstate h =>
      simp only [Action.on_bind, Action.on_discard, happlied, Except.map, Action.on_files,
        Action.on_ofExcept, hstate, h]
    | generating hprovisioned h =>
      obtain ⟨⟨output, happlied⟩, hstate, haddresses⟩ := hprovisioned
      simp only [Action.on_bind, Action.on_discard, happlied, Except.map, Action.on_files,
        Action.on_ofExcept, hstate, haddresses, h]
    | delivering hprovisioned hgenerated h =>
      obtain ⟨⟨output, happlied⟩, hstate, haddresses⟩ := hprovisioned
      simp only [Action.on_bind, Action.on_discard, happlied, Except.map, Action.on_files,
        Action.on_ofExcept, hstate, haddresses, hgenerated, h]

/-- A delivery that fails, to whichever server, makes the steps fail. -/
theorem exists_fails_of_someFails {applied generated : Session} {state : State}
    {deployments : List Deployment} (hprovisioned : Provisioned around project ready applied state)
    (hgenerated : (manifesting around project state).on applied = (.ok deployments, generated))
    (h : Rollout.SomeFails around.programs around.schedule (backoff project.settings.apply)
      generated (deployments.map (deliveryOf project))) :
    ∃ e failed, Fails around project ready e failed := by
  obtain ⟨e, he⟩ := (Rollout.exists_run_eq_error_iff _ _ _ _ _).mpr h
  have hdeliver := deliver_on around project deployments generated
  rw [he] at hdeliver
  exact ⟨_, _, .delivering hprovisioned hgenerated hdeliver⟩

/-! ### Calls before a teardown -/

theorem not_isDestroy_of_program_ne {call : Program.Call} (h : call.program ≠ Terraform.program) :
    ¬call.IsDestroy := by
  rintro ⟨directory, rfl⟩
  exact h rfl

theorem not_isDestroy_initCall (directory : String) : ¬(Terraform.initCall directory).IsDestroy := by
  rintro ⟨other, h⟩
  simp [Terraform.initCall, Terraform.destroyCall, Terraform.callIn] at h

theorem not_isDestroy_applyCall (directory : String) :
    ¬(Terraform.applyCall directory).IsDestroy := by
  rintro ⟨other, h⟩
  simp [Terraform.applyCall, Terraform.destroyCall, Terraform.callIn] at h

theorem not_isDestroy_of_isRemote {call : Program.Call} (h : call.IsRemote) : ¬call.IsDestroy := by
  apply not_isDestroy_of_program_ne
  rcases h with h | h
  · rw [h]
    decide
  · rw [h]
    decide

theorem not_isDestroy_of_isDocker {call : Program.Call} (h : call.IsDocker) : ¬call.IsDestroy := by
  apply not_isDestroy_of_program_ne
  rw [h]
  decide

theorem callsOnly_deliver (deployments : List Deployment) :
    (deliver around project deployments).CallsOnly (¬·.IsDestroy) := by
  intro s
  rw [deliver_on]
  exact (Rollout.continues_run _ _ _ s _).mono fun _ ↦ not_isDestroy_of_isRemote

theorem callsOnly_rollOut (hlists : around.ListsWithoutCalls) {files : FileTree}
    (h : Project.load around o files = .ok project) :
    (rollOut around project).CallsOnly (¬·.IsDestroy) := by
  rw [rollOut_eq]
  apply (Action.callsOnly_call (not_isDestroy_applyCall _) _).discard.bind
  intro _
  apply Action.callsOnly_files.bind
  intro files
  apply (Action.callsOnly_ofExcept _).bind
  intro state
  apply (Action.callsOnly_ofExcept _).bind
  intro _
  apply ((callsOnly_manifesting hlists h state).mono fun _ ↦ not_isDestroy_of_isDocker).bind
  intro deployments
  apply (callsOnly_deliver deployments).bind
  exact fun _ ↦ Action.callsOnly_pure _

/-! ### Runs -/

variable {destroyOnFailure : Bool} {e : CommandError} {failed : Session}

/-- The call to destroy stands between the failure of a step and the end of the run. -/
theorem guarded_on_of_fails (hasked : Asked project destroyOnFailure)
    (h : Fails around project ready e failed) :
    (guarded around project destroyOnFailure).on ready =
      (.error e,
        (failed.run around.programs
          (Terraform.destroyCall project.layout.terraformDirectory)).1) := by
  have hflag : (destroyOnFailure || project.settings.apply.destroyOnFailure) = true := by
    simpa [Asked] using hasked
  unfold guarded
  rw [if_pos hflag, Action.on_tryCatch, rollOut_on_eq_error_iff.mpr h]
  exact destroyAgain_on e failed

theorem guarded_on_of_not_asked (hasked : ¬Asked project destroyOnFailure)
    (h : Fails around project ready e failed) :
    (guarded around project destroyOnFailure).on ready = (.error e, failed) := by
  have hflag : ¬(destroyOnFailure || project.settings.apply.destroyOnFailure) = true := by
    simpa [Asked] using hasked
  unfold guarded
  rw [if_neg hflag]
  exact rollOut_on_eq_error_iff.mpr h

/-- Until a step fails there is no call to destroy. -/
theorem not_isDestroy_of_fails (hlists : around.ListsWithoutCalls)
    (hs : ∀ call ∈ s.calls, ¬call.IsDestroy) (hprepared : Prepared around o s project ready)
    (h : Fails around project ready e failed) : ∀ call ∈ failed.calls, ¬call.IsDestroy := by
  have hrolled := callsOnly_rollOut hlists hprepared.loaded ready
  rw [rollOut_on_eq_error_iff.mpr h] at hrolled
  exact ((hprepared.continues not_isDestroy_initCall).trans hrolled).forall_calls hs

theorem error_of_fails (hprepared : Prepared around o s project ready)
    (h : Fails around project ready e failed) :
    ((Command.apply around o destroyOnFailure).on s).1 = .error e := by
  rw [apply_on_of_prepared hprepared, Action.on_bind]
  by_cases hasked : Asked project destroyOnFailure
  · rw [guarded_on_of_fails hasked h]
  · rw [guarded_on_of_not_asked hasked h]

theorem session_of_fails (hprepared : Prepared around o s project ready)
    (hasked : Asked project destroyOnFailure) (h : Fails around project ready e failed) :
    ((Command.apply around o destroyOnFailure).on s).2 =
      (failed.run around.programs
        (Terraform.destroyCall project.layout.terraformDirectory)).1 := by
  rw [session_apply hprepared, guarded_on_of_fails hasked h]

/-- A run that makes a call to destroy has failed behind the preparation, and was asked to. -/
theorem fails_of_isDestroy (hlists : around.ListsWithoutCalls)
    (hs : ∀ call ∈ s.calls, ¬call.IsDestroy)
    (h : ∃ call ∈ ((Command.apply around o destroyOnFailure).on s).2.calls, call.IsDestroy) :
    ∃ project ready e failed, Prepared around o s project ready ∧
      Asked project destroyOnFailure ∧ Fails around project ready e failed := by
  obtain ⟨call, hcall, hdestroy⟩ := h
  have hpreparing : s.Continues (¬·.IsDestroy) ((preparing around o).on s).2 :=
    callsOnly_preparing not_isDestroy_initCall around o s
  cases hprepare : (preparing around o).on s with
  | mk result ready =>
    rw [hprepare] at hpreparing
    cases result with
    | error e =>
      rw [apply_eq, Action.on_bind, hprepare] at hcall
      exact absurd hdestroy (hpreparing.forall_calls hs call hcall)
    | ok project =>
      have hprepared := preparing_on_eq_ok_iff.mp hprepare
      -- What is rolled out makes no such call itself, so it is the one made after a failure.
      have hrolled := hpreparing.trans (callsOnly_rollOut hlists hprepared.loaded ready)
      rw [session_apply hprepared] at hcall
      cases hrun : (rollOut around project).on ready with
      | mk result after =>
        rw [hrun] at hrolled
        have hnone : ¬call ∈ after.calls := fun hmem ↦
          hrolled.forall_calls hs call hmem hdestroy
        cases result with
        | ok count =>
          rw [guarded_on_of_ok hrun] at hcall
          exact absurd hcall hnone
        | error e =>
          have hfails := rollOut_on_eq_error_iff.mp hrun
          by_cases hasked : Asked project destroyOnFailure
          · exact ⟨project, ready, e, after, hprepared, hasked, hfails⟩
          · rw [guarded_on_of_not_asked hasked hfails] at hcall
            exact absurd hcall hnone

end Steps

/-! ### Teardown -/

/-- How a run of `apply` from a session tears down what it has provisioned. -/
structure TearsDown (around : Surroundings) (o : ProjectOptions) (destroyOnFailure : Bool)
    (s : Session) (result : Except CommandError String) (after : Session) : Prop where
  /-- There is at most one call to destroy, and no call is made after it. -/
  last : (∀ call ∈ after.calls, ¬call.IsDestroy) ∨
    ∃ before call, after.calls = before ++ [call] ∧ call.IsDestroy ∧
      ∀ earlier ∈ before, ¬earlier.IsDestroy
  /-- It is made where it was asked for and a step behind the preparation has failed, unless the
  provisioner is not to be found any more. -/
  destroys_iff : (∃ call ∈ after.calls, call.IsDestroy) ↔
    ∃ project ready e failed, Prepared around o s project ready ∧
      Asked project destroyOnFailure ∧ Fails around project ready e failed ∧
        around.programs.ending failed.calls
          (Terraform.destroyCall project.layout.terraformDirectory) ≠ .missing
  /-- The failed step is followed by that call and by nothing else. -/
  session : ∀ project ready e failed, Prepared around o s project ready →
    Asked project destroyOnFailure → Fails around project ready e failed →
      after = (failed.run around.programs
        (Terraform.destroyCall project.layout.terraformDirectory)).1
  /-- The run ends in the error of the failed step, however the call ends. -/
  error : ∀ project ready e failed, Prepared around o s project ready →
    Fails around project ready e failed → result = .error e
  /-- The delivery to any server is one of these steps. -/
  delivery : ∀ project ready applied generated state deployments,
    Provisioned around project ready applied state →
    (manifesting around project state).on applied = (.ok deployments, generated) →
    Rollout.SomeFails around.programs around.schedule (backoff project.settings.apply) generated
      (deployments.map (deliveryOf project)) →
    ∃ e failed, Fails around project ready e failed

theorem exists_isDestroy_run_iff {programs : Programs} {failed : Session} {directory : String}
    (hbefore : ∀ call ∈ failed.calls, ¬call.IsDestroy) :
    (∃ call ∈ (failed.run programs (Terraform.destroyCall directory)).1.calls, call.IsDestroy) ↔
      programs.ending failed.calls (Terraform.destroyCall directory) ≠ .missing := by
  change (∃ call ∈ (failed.start programs (Terraform.destroyCall directory)).1.calls, _) ↔ _
  constructor
  · rintro ⟨call, hcall, hdestroy⟩ hmissing
    rw [Session.start_of_missing hmissing] at hcall
    exact hbefore call hcall hdestroy
  · intro hfound
    rw [Session.calls_start_of_ne_missing hfound]
    exact ⟨_, List.mem_append_right _ (List.mem_singleton_self _), directory, rfl⟩

theorem tearsDown_apply {around : Surroundings} (hlists : around.ListsWithoutCalls)
    (o : ProjectOptions) (destroyOnFailure : Bool) (files : FileTree) :
    TearsDown around o destroyOnFailure (Session.on files)
      ((Command.apply around o destroyOnFailure).on (Session.on files)).1
      ((Command.apply around o destroyOnFailure).on (Session.on files)).2 := by
  have hs : ∀ call ∈ (Session.on files).calls, ¬call.IsDestroy := nofun
  constructor
  case last =>
    by_cases h : ∃ call ∈ ((Command.apply around o destroyOnFailure).on
        (Session.on files)).2.calls, call.IsDestroy
    · obtain ⟨project, ready, e, failed, hprepared, hasked, hfails⟩ :=
        fails_of_isDestroy hlists hs h
      have hbefore := not_isDestroy_of_fails hlists hs hprepared hfails
      rw [session_of_fails hprepared hasked hfails] at h ⊢
      have hfound := (exists_isDestroy_run_iff hbefore).mp h
      exact .inr ⟨failed.calls, _, Session.calls_start_of_ne_missing hfound, ⟨_, rfl⟩, hbefore⟩
    · exact .inl fun call hcall hdestroy ↦ h ⟨call, hcall, hdestroy⟩
  case destroys_iff =>
    constructor
    · intro h
      obtain ⟨project, ready, e, failed, hprepared, hasked, hfails⟩ :=
        fails_of_isDestroy hlists hs h
      rw [session_of_fails hprepared hasked hfails] at h
      have hbefore := not_isDestroy_of_fails hlists hs hprepared hfails
      exact ⟨project, ready, e, failed, hprepared, hasked, hfails,
        (exists_isDestroy_run_iff hbefore).mp h⟩
    · rintro ⟨project, ready, e, failed, hprepared, hasked, hfails, hfound⟩
      rw [session_of_fails hprepared hasked hfails]
      exact (exists_isDestroy_run_iff (not_isDestroy_of_fails hlists hs hprepared hfails)).mpr
        hfound
  case session => exact fun _ _ _ _ ↦ session_of_fails
  case error => exact fun _ _ _ _ ↦ error_of_fails
  case delivery => exact fun _ _ _ _ _ _ ↦ exists_fails_of_someFails

/-- A provisioner that gets ready and then may not make anything. -/
def withoutQuota : Surroundings where
  environment := []
  programs :=
    ⟨fun _ call ↦ if call.arguments.contains "apply" then .exited (some 1) "" "no quota"
      else .exited (some 0) "" "",
    fun _ _ tree ↦ tree⟩
  packages registry _ := .withoutToken registry.host registry.tokenVariable
  schedule := Rollout.inTurn
  writing := .inTurn

def oneKeyTree : FileTree where
  nodes := [(["cluster.yml"], .file (.text "ssh_keys: \x7bk: \x7bprivate_key: p\x7d\x7d\n") none)]
  workingDirectory := []

theorem tearsDown_apply_withoutQuota :
    withoutQuota.ListsWithoutCalls ∧
      ((Command.apply withoutQuota ⟨"cluster.yml", none, "shipyard.toml", false⟩ true).on
        (Session.on oneKeyTree)).2.calls.map (·.arguments.getD 1 "") =
          ["init", "apply", "destroy"] ∧
      TearsDown withoutQuota ⟨"cluster.yml", none, "shipyard.toml", false⟩ true
        (Session.on oneKeyTree)
        ((Command.apply withoutQuota ⟨"cluster.yml", none, "shipyard.toml", false⟩ true).on
          (Session.on oneKeyTree)).1
        ((Command.apply withoutQuota ⟨"cluster.yml", none, "shipyard.toml", false⟩ true).on
          (Session.on oneKeyTree)).2 := by
  have hlists : withoutQuota.ListsWithoutCalls := ⟨fun _ _ _ ↦ rfl, fun _ _ _ _ ↦ rfl⟩
  exact ⟨hlists, by decide +kernel, tearsDown_apply hlists _ _ _⟩

end Command

end ClusterPlan
