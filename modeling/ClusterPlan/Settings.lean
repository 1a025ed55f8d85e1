import ClusterPlan.Files.Tree
import ClusterPlan.Toml.Reader
import ClusterPlan.Toml.Writer

/-!
# Settings

What can be set for a project: where artifacts go, where images come from, and how the proxy and a
rollout behave. A setting that is not given has its default, and settings that are not known are
left alone.
-/

namespace ClusterPlan

structure Settings.Registry where
  host : String
  apiUrl : String
  tokenVariable : String
  org : Option String
  repo : Option String
  deriving Repr, DecidableEq

structure Settings.Proxy where
  allowOverride : Bool
  defaultStrategy : String
  deriving Repr, DecidableEq

structure Settings.Apply where
  destroyOnFailure : Bool
  readyAttempts : Nat
  readyInterval : Nat
  deriving Repr, DecidableEq

structure Settings where
  outputDirectory : String
  registry : Settings.Registry
  proxy : Settings.Proxy
  apply : Settings.Apply
  deriving Repr, DecidableEq

namespace Settings

def fileName : String := "shipyard.toml"

def default : Settings where
  outputDirectory := ".shipyard"
  registry := ⟨"ghcr.io", "https://api.github.com", "GITHUB_TOKEN", none, none⟩
  proxy := ⟨false, "least_conn"⟩
  apply := ⟨false, 10, 2⟩

/-- The settings of a new project whose images lie under `org` and `repo`. -/
def scaffold (org repo : Option String) : Settings :=
  { default with registry := { default.registry with org, repo } }

/-! ### Reading -/

/-- The fields of a section by name, or by place where it is written as an array. -/
def fields? (names : List String) : Toml → Option Toml.Entries
  | .table _ entries => some entries
  | .array items => some (names.zip items)
  | .tables reversed => some (names.zip (reversed.reverse.map (.table .header)))
  | _ => none

def text? (fields : Toml.Entries) (name fallback : String) : Option String :=
  match fields.lookup name with
  | none => some fallback
  | some (.string s) => some s
  | some _ => none

/-- A text that need not be given: `none` inside `some` where it is not. -/
def optionalText? (fields : Toml.Entries) (name : String) : Option (Option String) :=
  match fields.lookup name with
  | none => some none
  | some (.string s) => some (some s)
  | some _ => none

def flag? (fields : Toml.Entries) (name : String) (fallback : Bool) : Option Bool :=
  match fields.lookup name with
  | none => some fallback
  | some (.bool b) => some b
  | some _ => none

/-- A number of at least zero and at most `limit`. -/
def count? (fields : Toml.Entries) (name : String) (limit fallback : Nat) : Option Nat :=
  match fields.lookup name with
  | none => some fallback
  | some (.int n) => if 0 ≤ n ∧ n ≤ limit then some n.toNat else none
  | some _ => none

def section? (fields : Toml.Entries) (name : String) (names : List String) :
    Option Toml.Entries :=
  match fields.lookup name with
  | none => some []
  | some v => fields? names v

def ofFields? (fields : Toml.Entries) : Option Settings := do
  let outputDirectory ← text? fields "output_dir" default.outputDirectory
  let registry ← section? fields "registry" ["host", "api_url", "token_env", "org", "repo"]
  let proxy ← section? fields "proxy" ["allow_override", "default_strategy"]
  let apply ← section? fields "apply"
    ["destroy_on_failure", "ready_attempts", "ready_interval_secs"]
  return {
    outputDirectory
    registry := {
      host := ← text? registry "host" default.registry.host
      apiUrl := ← text? registry "api_url" default.registry.apiUrl
      tokenVariable := ← text? registry "token_env" default.registry.tokenVariable
      org := ← optionalText? registry "org"
      repo := ← optionalText? registry "repo" }
    proxy := {
      allowOverride := ← flag? proxy "allow_override" default.proxy.allowOverride
      defaultStrategy := ← text? proxy "default_strategy" default.proxy.defaultStrategy }
    apply := {
      destroyOnFailure := ← flag? apply "destroy_on_failure" default.apply.destroyOnFailure
      readyAttempts := ← count? apply "ready_attempts" (Nat.pow 2 32 - 1) default.apply.readyAttempts
      readyInterval :=
        ← count? apply "ready_interval_secs" (Nat.pow 2 64 - 1) default.apply.readyInterval } }

def parse? (text : String) : Option Settings := (Toml.read? text).bind ofFields?

inductive Fault where
  | malformed (path : String)
  | unreadable (fault : FileFault)
  deriving Repr, DecidableEq

/-- The settings in a file, or the default ones where there is no file. -/
def load (tree : FileTree) (path : String) : Except Fault Settings :=
  if !tree.contains path then .ok default
  else match tree.readText path with
    | .error fault => .error (.unreadable fault)
    | .ok text =>
      match parse? text with
      | some settings => .ok settings
      | none => .error (.malformed path)

/-! ### Writing -/

def textLine (name value : String) : String := name ++ " = " ++ Toml.writeString value ++ "\n"

def flagLine (name : String) (value : Bool) : String := name ++ " = " ++ toString value ++ "\n"

def countLine (name : String) (value : Nat) : String := name ++ " = " ++ toString value ++ "\n"

def optionalLine (name : String) : Option String → String
  | some value => textLine name value
  | none => ""

def toToml (s : Settings) : String :=
  textLine "output_dir" s.outputDirectory ++
  "\n[registry]\n" ++
  textLine "host" s.registry.host ++
  textLine "api_url" s.registry.apiUrl ++
  textLine "token_env" s.registry.tokenVariable ++
  optionalLine "org" s.registry.org ++
  optionalLine "repo" s.registry.repo ++
  "\n[proxy]\n" ++
  flagLine "allow_override" s.proxy.allowOverride ++
  textLine "default_strategy" s.proxy.defaultStrategy ++
  "\n[apply]\n" ++
  flagLine "destroy_on_failure" s.apply.destroyOnFailure ++
  countLine "ready_attempts" s.apply.readyAttempts ++
  countLine "ready_interval_secs" s.apply.readyInterval

end Settings

end ClusterPlan
