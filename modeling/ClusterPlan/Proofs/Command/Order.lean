import ClusterPlan.Proofs.Artifacts.Checks
import ClusterPlan.Proofs.Artifacts.ManifestRun
import ClusterPlan.Proofs.Command.Steps
import ClusterPlan.Proofs.Registry.Names
import ClusterPlan.Proofs.Rollout.Course
import ClusterPlan.Proofs.Rollout.Order

/-!
# Order of a run

A run of `apply` calls no server before all of them are provisioned: the provisioner has applied the
files, the state that it has left holds an address for each server, and the manifests of all servers
stand. From then on each server gets the calls of its own delivery, in their order. Nothing else is
called on the way, and a run that fails earlier calls no server at all.
-/

namespace ClusterPlan.Command

section Order

variable {around : Surroundings} {o : ProjectOptions} {project : Project}
  {s ready applied generated : Session} {state : State} {deployments : List Deployment}

/-! ### What stands before the deliveries -/

/-- Everything that deliveries need is there, and no server has been called. -/
structure Deliverable (around : Surroundings) (o : ProjectOptions) (s : Session)
    (project : Project) (state : State) (deployments : List Deployment) (generated : Session) :
    Prop where
  exists_steps : ∃ ready applied, Prepared around o s project ready ∧
    Provisioned around project ready applied state ∧
    (manifesting around project state).on applied = (.ok deployments, generated)
  addressed : ∀ server ∈ project.registry.servers,
    ∃ details, state.server? server.name = some details
  servers : deployments.map (·.server) = project.registry.servers.map (·.name)
  manifests : ∃ plans, Artifact.planProxies project.options deployments = .ok plans ∧
    List.Forall₂ (Artifact.HasManifests project.layout generated.files) deployments plans
  quiet : ∀ call ∈ generated.calls, ¬call.IsRemote

theorem exists_details_of_checkAddresses {registry : Registry}
    (h : checkAddresses registry state = .ok ()) :
    ∀ server ∈ registry.servers, ∃ details, state.server? server.name = some details := by
  unfold checkAddresses at h
  split at h
  next hnone =>
    intro server hserver
    have hmem : server.name ∈ registry.servers.map (·.name) := List.mem_map_of_mem hserver
    have hsome := (List.filter_eq_nil_iff.mp hnone) server.name hmem
    rw [Option.isNone_iff_eq_none] at hsome
    exact Option.ne_none_iff_exists'.mp hsome
  next => cases h

theorem isLoaded_registry {files : FileTree} (h : Project.load around o files = .ok project) :
    project.registry.IsLoaded := by
  unfold Project.load at h
  obtain ⟨settings, -, h⟩ := Except.bind_eq_ok_iff.mp h
  obtain ⟨registry, hregistry, h⟩ := Except.bind_eq_ok_iff.mp h
  obtain ⟨options, -, h⟩ := Except.bind_eq_ok_iff.mp h
  rw [← Except.ok.inj h]
  obtain ⟨text, -, hload⟩ := Except.bind_eq_ok_iff.mp hregistry
  exact .inr ⟨_, text, Except.mapError_eq_ok_iff.mp hload⟩

/-- Manifests that are generated are those of all servers, and they have been written. -/
theorem makes_of_manifesting
    (h : (manifesting around project state).on applied = (.ok deployments, generated)) :
    deployments.map (·.server) = project.registry.servers.map (·.name) ∧
      (Artifact.writeManifests project.layout project.options deployments).Makes applied.files
        generated.files := by
  rw [Action.on_generation] at h
  obtain ⟨hresult, rfl⟩ := Prod.mk.inj h
  rw [Except.mapError_eq_ok_iff] at hresult
  cases hresolved : ((project.planner around.programs applied state).seeing
      applied.files).deployAll.result with
  | error e =>
    rw [Artifact.generateManifests_of_deployAll_eq_error hresolved] at hresult
    cases hresult
  | ok resolved =>
    rw [Artifact.generateManifests_of_deployAll_eq_ok hresolved] at hresult ⊢
    obtain ⟨_, hwritten, rfl⟩ := Except.map_eq_ok_iff.mp hresult
    exact ⟨Planner.map_server_of_deployAll _ hresolved, _, Prod.ext rfl hwritten⟩

theorem hasManifests_of_manifesting {files : FileTree}
    (hload : Project.load around o files = .ok project)
    (h : (manifesting around project state).on applied = (.ok deployments, generated)) :
    ∃ plans, Artifact.planProxies project.options deployments = .ok plans ∧
      List.Forall₂ (Artifact.HasManifests project.layout generated.files) deployments plans := by
  obtain ⟨hservers, hmakes⟩ := makes_of_manifesting h
  have hloaded := isLoaded_registry hload
  apply Artifact.hasManifests_of_makes _ _ hmakes
  · rw [hservers]
    exact hloaded.namesDistinct .server
  · intro d hd
    have hname : d.server ∈ project.registry.servers.map (·.name) :=
      hservers ▸ List.mem_map_of_mem hd
    exact hloaded.hasHostnames d.server hname

/-! ### Calls of the steps -/

theorem not_isRemote_callIn (directory : String) (arguments : List String) :
    ¬(Terraform.callIn directory arguments).IsRemote := by
  change ¬(Terraform.program = "ssh" ∨ Terraform.program = "scp")
  decide

theorem not_isRemote_of_isDocker {call : Program.Call} (h : call.IsDocker) : ¬call.IsRemote := by
  unfold Program.Call.IsRemote
  rw [h]
  decide

theorem Provisioned.continues (h : Provisioned around project ready applied state) :
    ready.Continues (¬·.IsRemote) applied := by
  obtain ⟨output, happlied⟩ := h.exists_output
  have hcall : (applying around project).CallsOnly (¬·.IsRemote) :=
    Action.callsOnly_call (not_isRemote_callIn _ _) _
  have hafter := hcall ready
  rwa [happlied] at hafter

theorem callsOnly_manifesting_not_isRemote (hlists : around.ListsWithoutCalls) {files : FileTree}
    (hload : Project.load around o files = .ok project) (state : State) :
    (manifesting around project state).CallsOnly (¬·.IsRemote) :=
  (callsOnly_manifesting hlists hload state).mono fun _ ↦ not_isRemote_of_isDocker

theorem deliverable_of_steps (hlists : around.ListsWithoutCalls)
    (hs : ∀ call ∈ s.calls, ¬call.IsRemote) (hprepared : Prepared around o s project ready)
    (hprovisioned : Provisioned around project ready applied state)
    (hgenerated : (manifesting around project state).on applied = (.ok deployments, generated)) :
    Deliverable around o s project state deployments generated where
  exists_steps := ⟨ready, applied, hprepared, hprovisioned, hgenerated⟩
  addressed := exists_details_of_checkAddresses hprovisioned.addressed
  servers := (makes_of_manifesting hgenerated).1
  manifests := hasManifests_of_manifesting hprepared.loaded hgenerated
  quiet := by
    have hmanifests := callsOnly_manifesting_not_isRemote hlists hprepared.loaded state applied
    rw [hgenerated] at hmanifests
    have hready : s.Continues (¬·.IsRemote) ready :=
      hprepared.continues fun _ ↦ not_isRemote_callIn _ _
    exact ((hready.trans hprovisioned.continues).trans hmanifests).forall_calls hs

/-! ### Deliveries -/

/-- What happens when deployments are delivered. -/
def deliveryEvents (around : Surroundings) (project : Project) (deployments : List Deployment)
    (generated : Session) : List Rollout.Event :=
  Rollout.runEvents around.programs around.schedule (backoff project.settings.apply) generated
    (deployments.map (deliveryOf project))

/-- The delivery at a place is that of the deployment at the place. -/
structure IsDeliveryOf (project : Project) (d : Deployment) (delivery : Delivery) : Prop where
  made : deliveryOf project d = .ok delivery
  server : delivery.server = d.server
  address : d.address = some delivery.remote.address
  directory : delivery.directory = project.layout.serverDirectory d.server

theorem isDeliveryOf {d : Deployment} {delivery : Delivery}
    (h : deliveryOf project d = .ok delivery) : IsDeliveryOf project d delivery := by
  have hmade := h
  unfold deliveryOf at h
  split at h
  next => cases h
  next =>
    split at h
    next => cases h
    next => cases h
    next key address hkey haddress =>
      obtain rfl := Except.ok.inj h
      exact ⟨hmade, rfl, haddress, rfl⟩

/-- What happens at a place: nothing, or what belongs to the delivery of the deployment there. -/
def DeliversAt (project : Project) (deployments : List Deployment) (place : Nat)
    (events : List Rollout.Event) : Prop :=
  events = [] ∨ ∃ d delivery, deployments[place]? = some d ∧ IsDeliveryOf project d delivery ∧
    Rollout.Delivers delivery (max 1 project.settings.apply.readyAttempts) events

/-- How deployments are delivered, up to the end of a run. -/
structure DeliversEach (around : Surroundings) (project : Project)
    (deployments : List Deployment) (generated after : Session) : Prop where
  /-- No server gets a call that is not part of a delivery. -/
  calls : ∃ rest, after.calls = generated.calls ++
      (Rollout.made (deliveryEvents around project deployments generated)).map Rollout.Busy.call ++
        rest ∧
    ∀ call ∈ rest, ¬call.IsRemote
  delivers : ∀ place, DeliversAt project deployments place
    (Rollout.eventsAt place (deliveryEvents around project deployments generated))

theorem deliversAt_deliveryEvents (around : Surroundings) (project : Project)
    (deployments : List Deployment) (generated : Session) (place : Nat) :
    DeliversAt project deployments place
      (Rollout.eventsAt place (deliveryEvents around project deployments generated)) := by
  rcases Rollout.delivers_runEvents around.programs around.schedule
      (backoff project.settings.apply) generated (deployments.map (deliveryOf project)) place with
    hnothing | ⟨delivery, hdelivery, hdelivers⟩
  · exact .inl hnothing
  · rw [List.getElem?_map] at hdelivery
    obtain ⟨d, hd, hmade⟩ := Option.map_eq_some_iff.mp hdelivery
    exact .inr ⟨d, delivery, hd, isDeliveryOf hmade, hdelivers⟩

/-! ### Runs -/

/-- Once the manifests are written, they are delivered. -/
theorem rollOut_on_of_manifesting (hprovisioned : Provisioned around project ready applied state)
    (hgenerated : (manifesting around project state).on applied = (.ok deployments, generated)) :
    ((rollOut around project).on ready).2 =
      ((deliver around project deployments).on generated).2 := by
  obtain ⟨⟨output, happlied⟩, hstate, haddresses⟩ := hprovisioned
  rw [rollOut_eq]
  simp only [Action.on_bind, Action.on_discard, happlied, Except.map, Action.on_files,
    Action.on_ofExcept, hstate, haddresses, hgenerated]
  cases (deliver around project deployments).on generated with
  | mk delivered after =>
    cases delivered with
    | error e => rfl
    | ok _ => rfl

/-- Where the manifests are not written, no server is called. -/
theorem rollOut_continues (hlists : around.ListsWithoutCalls) {files : FileTree}
    (hload : Project.load around o files = .ok project)
    (hnone : ∀ applied state deployments generated,
      Provisioned around project ready applied state →
        (manifesting around project state).on applied ≠ (.ok deployments, generated)) :
    ready.Continues (¬·.IsRemote) ((rollOut around project).on ready).2 := by
  have happly : (applying around project).CallsOnly (¬·.IsRemote) :=
    Action.callsOnly_call (not_isRemote_callIn _ _) _
  have hcalls := happly ready
  rw [rollOut_eq, Action.on_bind, Action.on_discard]
  cases happlied : (applying around project).on ready with
  | mk result applied =>
    rw [happlied] at hcalls
    cases result with
    | error e => exact hcalls
    | ok output =>
      dsimp only [Except.map]
      rw [Action.on_files_bind, Action.on_bind, Action.on_ofExcept]
      cases hstate : project.state applied.files with
      | error e => exact hcalls
      | ok state =>
        dsimp only
        rw [Action.on_bind, Action.on_ofExcept]
        cases haddresses : checkAddresses project.registry state with
        | error e => exact hcalls
        | ok _ =>
          have hprovisioned : Provisioned around project ready applied state :=
            ⟨⟨output, happlied⟩, hstate, haddresses⟩
          have hmore := callsOnly_manifesting_not_isRemote hlists hload state applied
          dsimp only
          rw [Action.on_bind]
          cases hgenerated : (manifesting around project state).on applied with
          | mk made generated =>
            rw [hgenerated] at hmore
            cases made with
            | error e => exact hcalls.trans hmore
            | ok deployments => exact absurd hgenerated (hnone _ _ _ _ hprovisioned)

/-- After what is rolled out, at most a teardown is called. -/
theorem guarded_continues (around : Surroundings) (project : Project) (destroyOnFailure : Bool)
    (ready : Session) :
    ((rollOut around project).on ready).2.Continues (¬·.IsRemote)
      ((guarded around project destroyOnFailure).on ready).2 := by
  unfold guarded
  split
  · rw [Action.on_tryCatch]
    cases (rollOut around project).on ready with
    | mk result after =>
      cases result with
      | ok count => exact Session.Continues.refl after
      | error e =>
        dsimp only
        rw [destroyAgain_on]
        exact Session.continues_run (not_isRemote_callIn _ _)
  · exact Session.Continues.refl _

variable {destroyOnFailure : Bool}

/-- A run that calls a server has got everything ready for its delivery. -/
theorem exists_deliverable (hlists : around.ListsWithoutCalls)
    (hs : ∀ call ∈ s.calls, ¬call.IsRemote)
    (h : ∃ call ∈ ((Command.apply around o destroyOnFailure).on s).2.calls, call.IsRemote) :
    ∃ project state deployments generated,
      Deliverable around o s project state deployments generated := by
  by_contra hnone
  obtain ⟨call, hcall, hremote⟩ := h
  have hpreparing : s.Continues (¬·.IsRemote) ((preparing around o).on s).2 :=
    callsOnly_preparing (fun _ ↦ not_isRemote_callIn _ _) around o s
  cases hprepare : (preparing around o).on s with
  | mk result ready =>
    rw [hprepare] at hpreparing
    cases result with
    | error e =>
      rw [apply_eq, Action.on_bind, hprepare] at hcall
      exact hpreparing.forall_calls hs call hcall hremote
    | ok project =>
      have hprepared := preparing_on_eq_ok_iff.mp hprepare
      have hrolled : ready.Continues (¬·.IsRemote) ((rollOut around project).on ready).2 := by
        apply rollOut_continues hlists hprepared.loaded
        intro applied state deployments generated hprovisioned hgenerated
        exact hnone ⟨project, state, deployments, generated,
          deliverable_of_steps hlists hs hprepared hprovisioned hgenerated⟩
      rw [session_apply hprepared] at hcall
      have hguarded := guarded_continues around project destroyOnFailure ready
      exact ((hpreparing.trans hrolled).trans hguarded).forall_calls hs call hcall hremote

/-- Everything that is ready to be delivered is delivered, server by server. -/
theorem Deliverable.deliversEach (h : Deliverable around o s project state deployments generated) :
    DeliversEach around project deployments generated
      ((Command.apply around o destroyOnFailure).on s).2 := by
  obtain ⟨ready, applied, hprepared, hprovisioned, hgenerated⟩ := h.exists_steps
  constructor
  · obtain ⟨rest, hcalls, hrest⟩ := guarded_continues around project destroyOnFailure ready
    refine ⟨rest, ?_, hrest⟩
    rw [session_apply hprepared, hcalls, rollOut_on_of_manifesting hprovisioned hgenerated,
      deliver_on, Rollout.calls_run]
    rfl
  · exact deliversAt_deliveryEvents around project deployments generated

end Order

/-- In which order a run makes its calls to servers. -/
structure RunsInOrder (around : Surroundings) (o : ProjectOptions) (s after : Session) : Prop where
  /-- A run that calls a server comes to the point where everything is ready for it. -/
  ready : (∃ call ∈ after.calls, call.IsRemote) →
    ∃ project state deployments generated,
      Deliverable around o s project state deployments generated
  /-- A run that comes to this point has called no server before, and goes on to deliver. -/
  delivers : ∀ project state deployments generated,
    Deliverable around o s project state deployments generated →
      DeliversEach around project deployments generated after

theorem runsInOrder_apply {around : Surroundings} (hlists : around.ListsWithoutCalls)
    (o : ProjectOptions) (destroyOnFailure : Bool) (files : FileTree) :
    RunsInOrder around o (Session.on files)
      ((Command.apply around o destroyOnFailure).on (Session.on files)).2 where
  ready := exists_deliverable hlists nofun
  delivers := fun _ _ _ _ hdeliverable ↦ hdeliverable.deliversEach

/-- A provisioner that succeeds, and a host that refuses the first connection. -/
def refusingOnce : Surroundings where
  environment := []
  programs :=
    ⟨fun before call ↦
      if call.program = "ssh" ∧ before.all (·.program ≠ "ssh") then .exited (some 255) "" "refused"
      else .exited (some 0) "" "",
    fun _ _ tree ↦ tree⟩
  packages registry _ := .withoutToken registry.host registry.tokenVariable
  schedule := Rollout.inTurn
  writing := .inTurn

/-- One server with one service, and the state of a provisioner that has made the server. -/
def oneServerTree : FileTree where
  nodes :=
    [(["c.yml"],
        .file (.text ("ssh_keys: \x7bk: \x7bprivate_key: p\x7d\x7d\n" ++
          "servers: \x7bw1: \x7bserver_type: t, ssh_keys: [k], services: [a]\x7d\x7d\n" ++
          "services: \x7ba: \x7bimages: [o/r:t], ports: ['1:1:1']\x7d\x7d\n")) none),
      (["o"], .directory none), (["o", "terraform"], .directory none),
      (["o", "terraform", "terraform.tfstate"],
        .file (.text ("\x7b\"version\":4,\"resources\":[\x7b\"type\":\"hcloud_server\"," ++
          "\"instances\":[\x7b\"attributes\":" ++
          "\x7b\"name\":\"w1\",\"ipv4_address\":\"a\"\x7d\x7d]\x7d]\x7d")) none)]
  workingDirectory := []

theorem runsInOrder_apply_oneServer :
    refusingOnce.ListsWithoutCalls ∧
      (∃ project state deployments generated,
        Deliverable refusingOnce ⟨"c.yml", some "o", "s", false⟩ (Session.on oneServerTree) project
          state deployments generated ∧
        deployments.length = 1) ∧
      RunsInOrder refusingOnce ⟨"c.yml", some "o", "s", false⟩ (Session.on oneServerTree)
        ((Command.apply refusingOnce ⟨"c.yml", some "o", "s", false⟩ true).on
          (Session.on oneServerTree)).2 := by
  have hlists : refusingOnce.ListsWithoutCalls := ⟨fun _ _ _ ↦ rfl, fun _ _ _ _ ↦ rfl⟩
  refine ⟨hlists, ?_, runsInOrder_apply hlists _ _ _⟩
  have hsteps :
      (match (preparing refusingOnce ⟨"c.yml", some "o", "s", false⟩).on
          (Session.on oneServerTree) with
      | (.ok project, ready) =>
        match (applying refusingOnce project).on ready with
        | (.ok _, applied) =>
          match project.state applied.files with
          | .ok state =>
            match checkAddresses project.registry state with
            | .ok _ =>
              ((manifesting refusingOnce project state).on applied).1.toOption.map (·.length)
            | .error _ => none
          | .error _ => none
        | (.error _, _) => none
      | (.error _, _) => none) = some 1 := by decide +kernel
  split at hsteps
  next project ready hprepared =>
    split at hsteps
    next output applied happlied =>
      split at hsteps
      next state hstate =>
        split at hsteps
        next haddresses =>
          cases hgenerated : (manifesting refusingOnce project state).on applied with
          | mk result generated =>
            rw [hgenerated] at hsteps
            cases result with
            | error e => cases hsteps
            | ok deployments =>
              have hs : ∀ call ∈ (Session.on oneServerTree).calls, ¬call.IsRemote := nofun
              have hdeliverable := deliverable_of_steps hlists hs
                (preparing_on_eq_ok_iff.mp hprepared) ⟨⟨output, happlied⟩, hstate, haddresses⟩
                hgenerated
              exact ⟨project, state, deployments, generated, hdeliverable, Option.some.inj hsteps⟩
        next => cases hsteps
      next => cases hsteps
    next => cases hsteps
  next => cases hsteps

end ClusterPlan.Command
