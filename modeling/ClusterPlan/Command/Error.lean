import ClusterPlan.Artifacts.Error
import ClusterPlan.Program.Session
import ClusterPlan.Registry.Document
import ClusterPlan.Rollout.Delivery
import ClusterPlan.Settings
import ClusterPlan.State

/-!
# What commands can fail by

An error of a command says what was being done, and goes back to a cause unless the command itself
found the fault.
-/

namespace ClusterPlan

/-- What an error of a command goes back to. -/
inductive Cause where
  | file (fault : FileFault)
  | settings (fault : Settings.Fault)
  | document (e : Document.Error)
  | state (fault : State.Fault)
  | artifact (e : ArtifactError)

inductive CommandError where
  | settings (path : String) (fault : Settings.Fault)
  | config (path : String) (fault : FileFault)
  | document (path : String) (e : Document.Error)
  | strategy (e : Proxy.Strategy.Unknown)
  | state (path : String) (fault : State.Fault)
  | artifact (e : ArtifactError)
  | program (fault : Program.Fault)
  | noAddress (servers : List String)
  | delivery (e : Delivery.Error)
  | nothingToDestroy (directory : String)
  | alreadyThere (path : String)
  | notMade (directory : String) (fault : FileFault)
  | notWritten (path : String) (fault : FileFault)

def Cause.message : Cause → String
  | file fault => fault.message
  | settings (.malformed path) => path ++ " holds no settings"
  | settings (.unreadable fault) => fault.message
  | document e => e.message?.getD "not a document"
  | state (.unreadable fault) => fault.message
  | state fault => fault.message?.getD "not a provisioning state"
  | artifact (.unwritable path fault) => path ++ ": " ++ fault.message
  | artifact e => e.message?.getD "no ports are reported"

/-- What was being done to a server, where that is to be said, or what it lacks. -/
def Delivery.Error.context : Delivery.Error → List String
  | unknownServer server => ["unknown server " ++ server]
  | noKey server => ["server " ++ server ++ " has no ssh key with a private half"]
  | noAddress server => ["server " ++ server ++ " has no address"]
  | unreachable server _ => ["server " ++ server ++ " never accepted ssh connections"]
  | notCleared _ => []
  | notCopied server _ => ["failed to upload manifests to " ++ server]
  | notStarted server _ => ["docker compose failed on " ++ server]

/-- The fault of the call that a delivery has failed in, if it had begun. -/
def Delivery.Error.fault? : Delivery.Error → Option Program.Fault
  | unknownServer _ => none
  | noKey _ => none
  | noAddress _ => none
  | unreachable _ fault => some fault
  | notCleared fault => some fault
  | notCopied _ fault => some fault
  | notStarted _ fault => some fault

/-- That a program is missing is what the file system says. -/
def Program.Fault.cause? : Program.Fault → Option Cause
  | missing _ => some (.file .notFound)
  | exited .. => none

namespace CommandError

/-- What the command says of an error, from the outside in. -/
def context : CommandError → List String
  | settings path _ => ["failed to load settings " ++ path]
  | config path _ => ["failed to read " ++ path]
  | document path _ => ["invalid cluster document " ++ path]
  | strategy e => ["proxy.default_strategy: " ++ e.message]
  | state path _ => ["failed to read provisioning state " ++ path]
  | artifact _ => []
  | program fault => [fault.message]
  | noAddress servers =>
    ["provisioning state has no address for server(s): " ++ ", ".intercalate servers]
  | delivery e => e.context ++ (e.fault?.map (·.message)).toList
  | nothingToDestroy directory => ["nothing to destroy: " ++ directory ++ " does not exist"]
  | alreadyThere path => [path ++ " already exists (use --force to overwrite)"]
  | notMade directory _ => ["failed to create " ++ directory]
  | notWritten path _ => ["failed to write " ++ path]

def cause? : CommandError → Option Cause
  | settings _ fault => some (.settings fault)
  | config _ fault => some (.file fault)
  | document _ e => some (.document e)
  | state _ fault => some (.state fault)
  | artifact e => some (.artifact e)
  | program fault => fault.cause?
  | delivery e => e.fault?.bind (·.cause?)
  | notMade _ fault => some (.file fault)
  | notWritten _ fault => some (.file fault)
  | strategy _ => none
  | noAddress _ => none
  | nothingToDestroy _ => none
  | alreadyThere _ => none

def message (e : CommandError) : String :=
  ": ".intercalate (e.context ++ (e.cause?.map (·.message)).toList)

end CommandError

end ClusterPlan
