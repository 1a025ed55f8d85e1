import ClusterPlan.Command.Action

/-!
# Generating

All artifacts are written into the output directory. Servers have the addresses of the provisioning
state, if there is one.
-/

namespace ClusterPlan.Command

def generate (around : Surroundings) (o : ProjectOptions) : Action String := do
  let project ← Action.ofExcept (Project.load around o (← Action.files))
  let state ← Action.ofExcept (project.state (← Action.files))
  let deployments ← Action.generation fun s ↦
    Artifact.generateAll project.layout project.options
      (project.planner around.programs s state) around.writing s.files
  return "✓ Generated artifacts for " ++ toString deployments.length ++ " server(s) in " ++
    project.layout.root ++ "\n"

end ClusterPlan.Command
