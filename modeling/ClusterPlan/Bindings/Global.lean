import ClusterPlan.Files.Tree
import ClusterPlan.Naming
import ClusterPlan.Template.Eval

/-!
# Global bindings

What every string of a cluster document can use: the environment as `env`, the contents of a file
next to the document as `file(name)`, and a name made fit for a host as `hostname(name)`.
-/

namespace ClusterPlan.Bindings

open Template

def fileName : String := "file"

def hostnameName : String := "hostname"

def globals (environment : List (String × String)) : Context :=
  ⟨[("env", Value.ofFields (environment.map fun (k, v) ↦ (k, .string v))),
    (fileName, .function fileName), (hostnameName, .function hostnameName)]⟩

/-- The one argument of a function that takes a string. -/
def stringArgument (function : String) (arguments : List Value) : Except Error String :=
  match arguments with
  | .string s :: _ => .ok s
  | other :: _ =>
    .error (.function function ("expected a string argument, got " ++ other.kind.name))
  | [] => .error (.function function "expected one argument")

/-- Reading a file waits for the disk; a missing argument is answered at once. -/
def readFile (tree : FileTree) (base : String) (arguments : List Value) : Reply :=
  match stringArgument fileName arguments with
  | .error e => ⟨0, .error e⟩
  | .ok name =>
    let path := Path.join base name
    match tree.readText path with
    | .ok s => ⟨1, .ok (.string s)⟩
    | .error fault => ⟨1, .error (.function fileName (path ++ ": " ++ fault.message))⟩

def hostname (arguments : List Value) : Reply :=
  ⟨0, (stringArgument hostnameName arguments).map fun s ↦ .string (Naming.sanitize s)⟩

/-- The global functions over a tree, with `others` for any further name. -/
def functions (tree : FileTree) (base : String) (others : Functions) : Functions :=
  fun name arguments ↦
    if name = fileName then readFile tree base arguments
    else if name = hostnameName then hostname arguments
    else others name arguments

/-- Functions none of which is bound. -/
def none : Functions := fun name _ ↦ ⟨0, .error (.unknownIdentifier name)⟩

end ClusterPlan.Bindings
