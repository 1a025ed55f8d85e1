import ClusterPlan.Artifacts.Error
import ClusterPlan.Files.Change

/-!
# Writing artifacts

Steps on the output directory, each of which fails with the path that it was made at.
-/

namespace ClusterPlan.Artifact

abbrev Writing := Change ArtifactError

def makeStep (step : FileStep) : Writing := Change.step (.unwritable step.path) step

def makeDirectory (path : String) : Writing := makeStep (.makeDirectory path)

def setMode (path : String) (mode : Nat) : Writing := makeStep (.setMode path mode)

/-- Write a file into a directory that is made if need be. -/
def write (path text : String) : Writing :=
  let file := makeStep (.writeText path text)
  match Path.parent? path with
  | some parent => (makeDirectory parent).andThen file
  | none => file

def removeStale (path : String) : Writing := makeStep (.removeIfPresent path)

/-- In which order the steps of a generation end, those of provisioning and those on manifests. -/
structure Schedules where
  provisioning : Change.Schedule
  manifests : Change.Schedule

def Schedules.inTurn : Schedules := ⟨Change.inTurn, Change.inTurn⟩

end ClusterPlan.Artifact
