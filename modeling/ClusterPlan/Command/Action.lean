import ClusterPlan.Artifacts.Generation
import ClusterPlan.Project

/-!
# Actions

What a command does is an action on a session: it changes files, makes calls, and ends in a result
or an error. What was done before an error stays done.
-/

namespace ClusterPlan

abbrev Action := ExceptT CommandError (StateM Session)

namespace Action

variable {α : Type}

def ofExcept (result : Except CommandError α) : Action α := ExceptT.mk (pure result)

def files : Action FileTree := return (← get).files

/-- Make a call and wait for its end. -/
def call (programs : Programs) (c : Program.Call) : Action String := do
  let (after, result) := (← get).run programs c
  set after
  ofExcept (result.mapError .program)

def change (schedule : Change.Schedule) (writing : Artifact.Writing) : Action Unit := do
  let s ← get
  let (after, written) := writing.run schedule s.files
  set ({ s with files := after } : Session)
  ofExcept (written.mapError .artifact)

/-- Take over what a generation leaves behind. The calls that it makes change no files. -/
def generation (generate : Session → Generated Program.Call) : Action (List Deployment) := do
  let s ← get
  let made := generate s
  set ({ files := made.tree, calls := s.calls ++ made.calls } : Session)
  ofExcept (made.result.mapError .artifact)

/-- A step on the files, which are left as they were where it fails. -/
def step (wrap : FileFault → CommandError) (op : FileTree → Except FileFault FileTree) :
    Action Unit := do
  let s ← get
  let after ← ofExcept ((op s.files).mapError wrap)
  set ({ s with files := after } : Session)

/-- An action that is tried; that it fails is of no account. -/
def attempt (x : Action α) : Action Unit := do
  try discard x catch _ => pure ()

end Action

end ClusterPlan
