import ClusterPlan.Files.Tree

/-!
# External programs

Programs that are started with arguments and run to their end. How a call ends may depend on all
calls before it, and a program may change files.
-/

namespace ClusterPlan

namespace Program

structure Call where
  program : String
  arguments : List String
  deriving Repr, DecidableEq

/-- What becomes of a call. A program that was killed has no exit code. -/
inductive Ending where
  | missing
  | exited (code : Option Int) (output errors : String)
  deriving Repr, DecidableEq

/-- The text of a program that could not be found. -/
def missingText : String := FileFault.notFound.message

/-- The number that stands for an exit code in messages. -/
def codeText (code : Option Int) : String := toString (code.getD (-1))

end Program

/-- The programs that can be found, by what their calls do after the calls before. -/
structure Programs where
  ending : List Program.Call → Program.Call → Program.Ending
  effect : List Program.Call → Program.Call → FileTree → FileTree

/-- No program can be found. -/
def Programs.none : Programs := ⟨fun _ _ ↦ .missing, fun _ _ tree ↦ tree⟩

end ClusterPlan
