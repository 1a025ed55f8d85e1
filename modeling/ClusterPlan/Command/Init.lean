import ClusterPlan.Command.Action

/-!
# Starting a project

A settings file with all settings spelled out. A file that is there already is only replaced by
force.
-/

namespace ClusterPlan.Command

def init (path : String) (org repo : Option String) (force : Bool) : Action String := do
  let file := Path.join path Settings.fileName
  if (← Action.files).contains file && !force then throw (.alreadyThere file)
  Action.step (.notMade path) (·.makeDirectory path)
  Action.step (.notWritten file) (·.writeText file (Settings.scaffold org repo).toToml)
  return "✓ Generated " ++ file ++ "\n"

end ClusterPlan.Command
