import ClusterPlan.Command.Apply
import ClusterPlan.Proofs.Command.Actions
import ClusterPlan.Proofs.Deployment.Resolving

/-!
# Steps of a run

A run of `apply` first prepares the provisioner: the document is loaded, the provisioning files are
written, and `terraform init` is called. Then the cluster is provisioned, the manifests are written
with the addresses that the state has, and they are delivered. Up to the deliveries no programs are
called but `terraform` and `docker`.
-/

namespace ClusterPlan

/-- Packages are asked for over the network, no program is called for it. -/
structure Surroundings.ListsWithoutCalls (around : Surroundings) : Prop where
  packages : ∀ settings token org, ((around.packages settings token).packages org).calls = []
  tags : ∀ settings token org package,
    ((around.packages settings token).tags org package).calls = []

/-- A call to inspect images. -/
def Program.Call.IsDocker (call : Program.Call) : Prop := call.program = Image.Docker.program

namespace Command

section Steps

variable {around : Surroundings} {o : ProjectOptions} {project : Project} {s ready : Session}

/-! ### Steps -/

/-- A project is loaded, its provisioning files are written, and the provisioner is ready. -/
structure Prepared (around : Surroundings) (o : ProjectOptions) (s : Session) (project : Project)
    (ready : Session) : Prop where
  loaded : Project.load around o s.files = .ok project
  begun : ∃ written output,
    (Artifact.generateProvisioning project.layout project.registry).run
        around.writing.provisioning s.files = (written, .ok ()) ∧
      (Action.call around.programs (Terraform.initCall project.layout.terraformDirectory)).on
        ⟨written, s.calls⟩ = (.ok output, ready)

/-- What is done until the provisioner is ready. -/
abbrev preparing (around : Surroundings) (o : ProjectOptions) : Action Project :=
  Action.files >>= fun files ↦ Action.ofExcept (Project.load around o files) >>= fun project ↦
    Action.change around.writing.provisioning
        (Artifact.generateProvisioning project.layout project.registry) >>= fun _ ↦
      discard (Action.call around.programs
        (Terraform.initCall project.layout.terraformDirectory)) >>= fun _ ↦ pure project

theorem preparing_on_eq_ok_iff :
    (preparing around o).on s = (.ok project, ready) ↔ Prepared around o s project ready := by
  unfold preparing
  rw [Action.on_files_bind, Action.on_ofExcept_bind_eq_ok_iff]
  constructor
  · rintro ⟨loaded, hload, h⟩
    obtain ⟨_, middle, hchange, h⟩ := Action.on_bind_eq_ok_iff.mp h
    obtain ⟨_, last, hinit, h⟩ := Action.on_bind_eq_ok_iff.mp h
    obtain ⟨hproject, rfl⟩ := Prod.mk.inj h
    obtain rfl := Except.ok.inj hproject
    obtain ⟨hrun, hcalls⟩ := Action.on_change_eq_ok_iff.mp hchange
    obtain ⟨output, hinit⟩ := Action.on_discard_eq_ok_iff.mp hinit
    exact ⟨hload, middle.files, output, hrun, hcalls ▸ hinit⟩
  · rintro ⟨hload, written, output, hrun, hinit⟩
    refine ⟨project, hload, Action.on_bind_eq_ok_iff.mpr ⟨(), ⟨written, s.calls⟩, ?_, ?_⟩⟩
    · exact Action.on_change_eq_ok_iff.mpr ⟨hrun, rfl⟩
    · exact Action.on_bind_eq_ok_iff.mpr
        ⟨(), ready, Action.on_discard_eq_ok_iff.mpr ⟨output, hinit⟩, rfl⟩

abbrev applying (around : Surroundings) (project : Project) : Action String :=
  Action.call around.programs (Terraform.applyCall project.layout.terraformDirectory)

abbrev manifesting (around : Surroundings) (project : Project) (state : State) :
    Action (List Deployment) :=
  Action.generation fun s ↦
    Artifact.generateManifests project.layout project.options
      (project.planner around.programs s state) around.writing.manifests s.files

/-- The provisioner has applied the files, and a state with all addresses is there. -/
structure Provisioned (around : Surroundings) (project : Project) (ready applied : Session)
    (state : State) : Prop where
  exists_output : ∃ output, (applying around project).on ready = (.ok output, applied)
  read : project.state applied.files = .ok state
  addressed : checkAddresses project.registry state = .ok ()

theorem rollOut_eq (around : Surroundings) (project : Project) :
    rollOut around project =
      discard (applying around project) >>= fun _ ↦ Action.files >>= fun files ↦
        Action.ofExcept (project.state files) >>= fun state ↦
          Action.ofExcept (checkAddresses project.registry state) >>= fun _ ↦
            manifesting around project state >>= fun deployments ↦
              deliver around project deployments >>= fun _ ↦ pure deployments.length := rfl

theorem deliver_on (around : Surroundings) (project : Project) (deployments : List Deployment)
    (s : Session) :
    (deliver around project deployments).on s =
      ((Rollout.run around.programs around.schedule (backoff project.settings.apply) s
          (deployments.map (deliveryOf project))).2.mapError .delivery,
        (Rollout.run around.programs around.schedule (backoff project.settings.apply) s
          (deployments.map (deliveryOf project))).1) := rfl

/-! ### Calls -/

section Calls

variable {q : Program.Call → Prop}

theorem callsOnly_preparing (hinit : ∀ directory, q (Terraform.initCall directory))
    (around : Surroundings) (o : ProjectOptions) : (preparing around o).CallsOnly q := by
  apply Action.callsOnly_files.bind
  intro files
  apply (Action.callsOnly_ofExcept _).bind
  intro project
  apply (Action.callsOnly_change _ _).bind
  intro _
  apply (Action.callsOnly_call (hinit _) _).discard.bind
  exact fun _ ↦ Action.callsOnly_pure _

theorem Prepared.continues (hinit : ∀ directory, q (Terraform.initCall directory))
    (h : Prepared around o s project ready) : s.Continues q ready := by
  have hpreparing := callsOnly_preparing hinit around o s
  rw [preparing_on_eq_ok_iff.mpr h] at hpreparing
  exact hpreparing

/-- What a loaded project lists packages by. -/
theorem listing_of_load {files : FileTree} (h : Project.load around o files = .ok project) :
    ∃ settings, project.listing = Project.listingOf around settings := by
  unfold Project.load at h
  obtain ⟨settings, -, h⟩ := Except.bind_eq_ok_iff.mp h
  obtain ⟨registry, -, h⟩ := Except.bind_eq_ok_iff.mp h
  obtain ⟨options, -, h⟩ := Except.bind_eq_ok_iff.mp h
  rw [← Except.ok.inj h]
  exact ⟨settings.registry, rfl⟩

theorem callsOnly_run_docker {call : Program.Call} (hcall : call.program = Image.Docker.program)
    (programs : Programs) (before : List Program.Call) (reference : String) :
    (Image.Docker.run programs before reference call).CallsOnly (·.IsDocker) := by
  unfold Image.Docker.run
  dsimp only
  split
  · exact Activity.callsOnly_ofExcept _
  · apply Activity.callsOnly_call
    exact hcall

theorem callsOnly_inspector (programs : Programs) (before : List Program.Call)
    (reference : String) :
    (Image.Docker.inspector programs before reference).CallsOnly (·.IsDocker) := by
  apply (callsOnly_run_docker rfl programs before reference).andThen
  intro _
  apply (callsOnly_run_docker rfl programs _ reference).andThen
  exact fun _ ↦ Activity.callsOnly_ofExcept _

theorem asksOnly_planner (hlists : around.ListsWithoutCalls) {files : FileTree}
    (h : Project.load around o files = .ok project) (state : State) :
    (project.planner around.programs s state).AsksOnly (·.IsDocker) := by
  obtain ⟨settings, hlisting⟩ := listing_of_load h
  constructor
  · intro org
    change (project.listing.packages org).CallsOnly _
    rw [hlisting]
    unfold Project.listingOf
    split
    · exact Activity.callsOnly_fail _
    · exact Activity.callsOnly_fail _
    · exact Activity.callsOnly_of_calls_eq_nil (hlists.packages _ _ _)
  · intro org package
    change (project.listing.tags org package).CallsOnly _
    rw [hlisting]
    unfold Project.listingOf
    split
    · exact Activity.callsOnly_fail _
    · exact Activity.callsOnly_fail _
    · exact Activity.callsOnly_of_calls_eq_nil (hlists.tags _ _ _ _)
  · exact callsOnly_inspector around.programs s.calls

theorem callsOnly_manifesting (hlists : around.ListsWithoutCalls) {files : FileTree}
    (h : Project.load around o files = .ok project) (state : State) :
    (manifesting around project state).CallsOnly (·.IsDocker) := by
  apply Action.callsOnly_generation
  intro s call hcall
  have hasks := asksOnly_planner (s := s) hlists h state
  have hlog : call ∈ ((project.planner around.programs s state).seeing s.files).deployAll.log := by
    unfold Artifact.generateManifests at hcall
    dsimp only at hcall
    split at hcall
    · exact hcall
    · exact hcall
  have hseeing : ((project.planner around.programs s state).seeing s.files).AsksOnly
      (·.IsDocker) := ⟨hasks.packages, hasks.tags, hasks.inspector⟩
  exact hseeing.deployAll.of_mem_log hlog

end Calls

/-! ### Runs -/

/-- What is done once the provisioner is ready. -/
abbrev guarded (around : Surroundings) (project : Project) (destroyOnFailure : Bool) : Action Nat :=
  if destroyOnFailure || project.settings.apply.destroyOnFailure then
    tryCatch (rollOut around project) (destroyAgain around project)
  else rollOut around project

def deployedText (count : Nat) : String := "✓ Deployed " ++ toString count ++ " server(s)\n"

theorem apply_eq (around : Surroundings) (o : ProjectOptions) (destroyOnFailure : Bool) :
    Command.apply around o destroyOnFailure =
      preparing around o >>= fun project ↦
        guarded around project destroyOnFailure >>= fun count ↦ pure (deployedText count) := by
  have hguarded (project : Project) (report : Nat → Action String) :
      guarded around project destroyOnFailure >>= report =
        if destroyOnFailure || project.settings.apply.destroyOnFailure then
          tryCatch (rollOut around project) (destroyAgain around project) >>= report
        else rollOut around project >>= report := by
    unfold guarded
    split
    · rfl
    · rfl
  simp only [hguarded, preparing, bind_assoc, pure_bind]
  rfl

variable {destroyOnFailure : Bool}

theorem guarded_on_of_ok {count : Nat} {after : Session}
    (h : (rollOut around project).on ready = (.ok count, after)) :
    (guarded around project destroyOnFailure).on ready = (.ok count, after) := by
  unfold guarded
  split
  · rw [Action.on_tryCatch, h]
  · exact h

theorem destroyAgain_on (e : CommandError) (failed : Session) :
    (destroyAgain around project e).on failed =
      (.error e,
        (failed.run around.programs
          (Terraform.destroyCall project.layout.terraformDirectory)).1) := by
  unfold destroyAgain
  rw [Action.on_bind, Action.on_attempt]
  rfl

/-- After the preparation a run goes on with what can be given up again. -/
theorem apply_on_of_prepared (h : Prepared around o s project ready) :
    (Command.apply around o destroyOnFailure).on s =
      (guarded around project destroyOnFailure >>= fun count ↦ pure (deployedText count)).on
        ready := by
  rw [apply_eq, Action.on_bind, preparing_on_eq_ok_iff.mpr h]

/-- A run leaves the session that what is guarded leaves. -/
theorem session_apply (h : Prepared around o s project ready) :
    ((Command.apply around o destroyOnFailure).on s).2 =
      ((guarded around project destroyOnFailure).on ready).2 := by
  rw [apply_on_of_prepared h, Action.on_bind]
  cases (guarded around project destroyOnFailure).on ready with
  | mk result after =>
    cases result with
    | error e => rfl
    | ok count => rfl

end Steps

end Command

end ClusterPlan
