import ClusterPlan.Program.Basic
import ClusterPlan.Text.Blank

/-!
# Sessions

What a run has done so far: the calls that it made, and the files as they have become. A program
that cannot be found is not called, so it leaves no trace.
-/

namespace ClusterPlan

namespace Program

/-- Why a call gave no output. -/
inductive Fault where
  | missing (program : String)
  | exited (program : String) (code : Option Int) (errors : String)
  deriving Repr, DecidableEq

def Fault.message : Fault → String
  | missing program => "failed to start " ++ program ++ ": " ++ missingText
  | exited program code errors =>
    program ++ " exited with code " ++ codeText code ++ ": " ++ errors

/-- The output of a call that has ended; only the exit code zero is a success. -/
def Call.output (call : Call) : Ending → Except Fault String
  | .missing => .error (.missing call.program)
  | .exited (some 0) output _ => .ok output
  | .exited code _ errors => .error (.exited call.program code (Text.trim errors))

end Program

structure Session where
  files : FileTree
  calls : List Program.Call

namespace Session

/-- A session in which nothing has been called. -/
def on (files : FileTree) : Session := ⟨files, []⟩

/-- Make a call. How it will end is settled when it starts. -/
def start (programs : Programs) (s : Session) (call : Program.Call) : Session × Program.Ending :=
  match programs.ending s.calls call with
  | .missing => (s, .missing)
  | ending => (⟨programs.effect s.calls call s.files, s.calls ++ [call]⟩, ending)

/-- Make a call and wait for its end. -/
def run (programs : Programs) (s : Session) (call : Program.Call) :
    Session × Except Program.Fault String :=
  let (after, ending) := s.start programs call
  (after, call.output ending)

end Session

end ClusterPlan
