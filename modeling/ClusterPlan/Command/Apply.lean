import ClusterPlan.Command.Action
import ClusterPlan.Rollout.Run
import ClusterPlan.Terraform.Command

/-!
# Applying a cluster

The cluster is provisioned first; the state that this leaves has the addresses for the manifests,
which are then delivered to all servers. From provisioning on, a failure can have all that was
provisioned given up again.
-/

namespace ClusterPlan.Command

/-- Every server must have an address once it is provisioned. -/
def checkAddresses (registry : Registry) (state : State) : Except CommandError Unit :=
  match (registry.servers.map (·.name)).filter fun name ↦ (state.server? name).isNone with
  | [] => .ok ()
  | missing => .error (.noAddress missing)

/-- The delivery of a deployment, by the first key of its server that can open a connection. -/
def deliveryOf (project : Project) (d : Deployment) : Except Delivery.Error Delivery :=
  match project.registry.server? d.server with
  | none => .error (.unknownServer d.server)
  | some server =>
    match project.registry.connectionKey? server, d.address with
    | none, _ => .error (.noKey d.server)
    | some _, none => .error (.noAddress d.server)
    | some key, some address =>
      .ok ⟨d.server,
        ⟨key.user, address, project.layout.privateKey key.name, project.layout.knownHosts⟩,
        project.layout.serverDirectory d.server⟩

def backoff (settings : Settings.Apply) : Backoff :=
  .ofSeconds settings.readyAttempts settings.readyInterval

/-- Deliver the manifests of all deployments side by side. -/
def deliver (around : Surroundings) (project : Project) (deployments : List Deployment) :
    Action Unit := do
  let (after, delivered) := Rollout.run around.programs around.schedule
    (backoff project.settings.apply) (← get) (deployments.map (deliveryOf project))
  set after
  Action.ofExcept (delivered.mapError .delivery)

/-- All that can be given up again when it fails. -/
def rollOut (around : Surroundings) (project : Project) : Action Nat := do
  discard (Action.call around.programs (Terraform.applyCall project.layout.terraformDirectory))
  let state ← Action.ofExcept (project.state (← Action.files))
  Action.ofExcept (checkAddresses project.registry state)
  let deployments ← Action.generation fun s ↦
    Artifact.generateManifests project.layout project.options
      (project.planner around.programs s state) around.writing.manifests s.files
  deliver around project deployments
  return deployments.length

def destroyAgain (around : Surroundings) (project : Project) (e : CommandError) : Action Nat := do
  Action.attempt
    (Action.call around.programs (Terraform.destroyCall project.layout.terraformDirectory))
  throw e

def apply (around : Surroundings) (o : ProjectOptions) (destroyOnFailure : Bool) :
    Action String := do
  let project ← Action.ofExcept (Project.load around o (← Action.files))
  Action.change around.writing.provisioning
    (Artifact.generateProvisioning project.layout project.registry)
  discard (Action.call around.programs (Terraform.initCall project.layout.terraformDirectory))
  let count ←
    if destroyOnFailure || project.settings.apply.destroyOnFailure then
      tryCatch (rollOut around project) (destroyAgain around project)
    else rollOut around project
  return "✓ Deployed " ++ toString count ++ " server(s)\n"

end ClusterPlan.Command
