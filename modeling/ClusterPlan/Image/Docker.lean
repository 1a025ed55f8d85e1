import ClusterPlan.Activity
import ClusterPlan.Image.Error

/-!
# Inspecting images

The ports that an image exposes, as the container runtime reports them after the image was pulled.
-/

namespace ClusterPlan.Image

/-- The ports that an image exposes, by its reference in full. -/
abbrev Inspector (κ : Type) := (reference : String) → Activity κ Error (List String)

namespace Docker

def program : String := "docker"

def pullArguments (reference : String) : List String := ["pull", "--quiet", reference]

def reportFormat : String := "\x7b\x7bjson .Config.ExposedPorts\x7d\x7d"

def reportArguments (reference : String) : List String :=
  ["image", "inspect", "--format", reportFormat, reference]

/-- What a call ends in: its output, or why the image could not be inspected. -/
def judge (reference : String) (call : Program.Call) : Program.Ending → Except Error String
  | .missing => .error (.inspection reference (.missing call.program))
  | .exited (some 0) output _ => .ok output
  | .exited code _ errors =>
    .error (.inspection reference
      (.exited call.program (call.arguments.headD "") code (Text.trim errors)))

/-- A program that is not there fails at once; one that is there is waited for. -/
def run (programs : Programs) (before : List Program.Call) (reference : String)
    (call : Program.Call) : Activity Program.Call Error String :=
  let ending := programs.ending before call
  let result := judge reference call ending
  match ending with
  | .missing => .ofExcept result
  | .exited .. => .call call 1 result

def report (programs : Programs) (before : List Program.Call) (reference : String) :
    Activity Program.Call Error (List String) :=
  (run programs before reference ⟨program, reportArguments reference⟩).andThen fun output ↦
    .ofExcept ((ExposedPorts.read output).mapError fun fault ↦
      .inspection reference (.report fault))

/-- Pull an image and have it inspected, after the calls that were made before. -/
def inspector (programs : Programs) (before : List Program.Call) : Inspector Program.Call :=
  fun reference ↦
    let pull : Program.Call := ⟨program, pullArguments reference⟩
    (run programs before reference pull).andThen fun _ ↦
      report programs (before ++ [pull]) reference

/-- Have an image inspected as it is, without pulling it. -/
def localInspector (programs : Programs) (before : List Program.Call) : Inspector Program.Call :=
  report programs before

end Docker

end ClusterPlan.Image
