import ClusterPlan.Files.Tree
import ClusterPlan.Json.Reader
import ClusterPlan.Json.Writer

/-!
# Provisioning state

What is known about servers that have been provisioned, read back from the file in which the
provisioner records all its resources. Of these only servers under its own management count.
-/

namespace ClusterPlan

/-- A server as it was provisioned: its address, and all that is recorded of it. -/
structure ServerDetails where
  address : String
  attributes : Json

/-- Server names with their details, in order of the names. -/
structure State where
  servers : List (String × ServerDetails)

namespace State

inductive Fault where
  | malformed
  | unsupportedVersion (version : Nat)
  | incompleteServer
  | unreadable (fault : FileFault)
  deriving Repr, DecidableEq

def serverType : String := "hcloud_server"

def supportedVersion : Nat := 4

/-- What is wrong with a state that could be read as such. -/
def Fault.message? : Fault → Option String
  | malformed => none
  | unsupportedVersion version =>
    some ("invalid provisioning state: unsupported state version " ++ toString version ++
      ", expected " ++ toString supportedVersion)
  | incompleteServer => some ("invalid provisioning state: " ++ serverType ++
      " instance without name or ipv4_address")
  | unreadable _ => none

def empty : State := ⟨[]⟩

instance : EmptyCollection State := ⟨empty⟩

def insert (state : State) (name : String) (details : ServerDetails) : State :=
  ⟨insertSorted name details state.servers⟩

def server? (state : State) (name : String) : Option ServerDetails := state.servers.lookup name

def size (state : State) : Nat := state.servers.length

/-! ### Resources -/

/-- A recorded resource with the attributes of its instances. -/
structure Resource where
  mode : String
  type : String
  instances : List Json

/-- A field by name, or by place where a record is written as an array. A name that is given twice
is a fault. -/
def recordField? (names : List String) (name : String) (record : Json) :
    Option (Option Json) :=
  match record with
  | .object fields =>
    match fields.filter (·.1 == name) with
    | [] => some none
    | [(_, value)] => some (some value)
    | _ => none
  | .array items =>
    if items.length ≤ names.length then some ((names.zip items).lookup name) else none
  | _ => none

def textOr? (fallback : String) : Option Json → Option String
  | none => some fallback
  | some (.string s) => some s
  | some _ => none

def listOr? : Option Json → Option (List Json)
  | none => some []
  | some (.array items) => some items
  | some _ => none

/-- The attributes of an instance, which must be given and within range. -/
def attributes? (instance_ : Json) : Option Json := do
  let attributes ← ← recordField? ["attributes"] "attributes" instance_
  if attributes.inRange then some attributes else none

def resource? (j : Json) : Option Resource := do
  let names := ["mode", "type", "instances"]
  let mode ← textOr? "" (← recordField? names "mode" j)
  let type ← ← recordField? names "type" j
  let type ← match type with
    | .string s => some s
    | _ => none
  let instances ← listOr? (← recordField? names "instances" j)
  return ⟨mode, type, ← instances.mapM attributes?⟩

/-- The version and the resources of a state file. -/
def file? (j : Json) : Option (Nat × List Resource) := do
  let names := ["version", "resources"]
  let version ← match ← recordField? names "version" j with
    | some (.number (.int n)) => if 0 ≤ n ∧ n < Nat.pow 2 32 then some n.toNat else none
    | _ => none
  let resources ← listOr? (← recordField? names "resources" j)
  return (version, ← resources.mapM resource?)

/-- Whether a resource is a server under management, and not merely looked up. -/
def Resource.isManagedServer (r : Resource) : Bool := r.type == serverType && r.mode != "data"

def textAttribute? (name : String) (attributes : Json) : Option String :=
  match attributes.get? name with
  | some (.string s) => some s
  | _ => none

def insertInstances (state : State) : List Json → Except Fault State
  | [] => .ok state
  | attributes :: rest =>
    match textAttribute? "name" attributes, textAttribute? "ipv4_address" attributes with
    | some name, some address =>
      (state.insert name ⟨address, attributes⟩).insertInstances rest
    | _, _ => .error .incompleteServer

def ofResources (resources : List Resource) : Except Fault State :=
  empty.insertInstances ((resources.filter (·.isManagedServer)).flatMap (·.instances))

def ofJson (j : Json) : Except Fault State :=
  match file? j with
  | none => .error .malformed
  | some (version, resources) =>
    if version = supportedVersion then ofResources resources
    else .error (.unsupportedVersion version)

def parse (text : String) : Except Fault State :=
  match Json.read? text with
  | some j => ofJson j
  | none => .error .malformed

/-- The state in a file; where there is no file, nothing has been provisioned. -/
def load (tree : FileTree) (path : String) : Except Fault State :=
  match tree.readText path with
  | .ok text => parse text
  | .error .notFound => .ok empty
  | .error fault => .error (.unreadable fault)

end State

end ClusterPlan
