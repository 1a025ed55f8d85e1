import ClusterPlan.Command.Action
import ClusterPlan.Terraform.Command

/-!
# Destroying a cluster

All that was provisioned from an output directory is given up. Nothing is called for a directory
without resources.
-/

namespace ClusterPlan.Command

def destroy (around : Surroundings) (output : Option String) (settings : String) :
    Action String := do
  let settings ← Action.ofExcept (Project.loadSettings (← Action.files) settings)
  let layout := Project.layoutOf output settings
  let directory := layout.terraformDirectory
  if !(← Action.files).leadsToDirectory directory then throw (.nothingToDestroy directory)
  discard (Action.call around.programs (Terraform.destroyCall directory))
  return "✓ Destroyed cluster provisioned from " ++ layout.root ++ "\n"

end ClusterPlan.Command
