import ClusterPlan.Command.Apply
import ClusterPlan.Command.Destroy
import ClusterPlan.Command.Generate
import ClusterPlan.Command.Init

/-!
# Command line

Reads the files that a command can look at, runs the command on them, and writes what it changed.
The files next to a document that its templates read are named by `--file`. Programs cannot be
started from here, and packages cannot be listed.
-/

namespace ClusterPlan.CommandLine

/-- The options that were given, and the flags. -/
structure Arguments where
  options : List (String × String)
  flags : List String

def flagNames : List String := ["--allow-override", "--destroy-on-failure", "--force"]

def shortNames : List (String × String) :=
  [("-c", "--config"), ("-o", "--output"), ("-s", "--settings"), ("-p", "--path")]

def readArguments (found : Arguments) : List String → Option Arguments
  | [] => some found
  | name :: rest =>
    if flagNames.contains name then
      readArguments { found with flags := found.flags ++ [name] } rest
    else match rest with
      | value :: rest =>
        let long := (shortNames.lookup name).getD name
        readArguments { found with options := found.options ++ [(long, value)] } rest
      | [] => none

namespace Arguments

def has (a : Arguments) (flag : String) : Bool := a.flags.contains flag

def get? (a : Arguments) (name : String) : Option String := a.options.lookup name

def project (a : Arguments) : ProjectOptions :=
  ⟨(a.get? "--config").getD "cluster.yml", a.get? "--output",
    (a.get? "--settings").getD Settings.fileName, a.has "--allow-override"⟩

/-- The files that the document of a command reads. -/
def namedFiles (a : Arguments) : List String :=
  (a.options.filter fun (name, _) ↦ name == "--file").map fun (_, file) ↦
    Path.join (Project.baseOf a.project.config) file

end Arguments

def command? (around : Surroundings) (a : Arguments) : String → Option (Action String)
  | "generate" => some (Command.generate around a.project)
  | "apply" => some (Command.apply around a.project (a.has "--destroy-on-failure"))
  | "destroy" => some (Command.destroy around (a.get? "--output") a.project.settings)
  | "init" => some (Command.init ((a.get? "--path").getD ".") (a.get? "--org") (a.get? "--repo")
      (a.has "--force"))
  | _ => none

/-! ### Files -/

def contentOf (bytes : ByteArray) : Content :=
  match String.fromUTF8? bytes with
  | some text => .text text
  | none => .bytes (bytes.toList.map (·.toNat))

/-- Take a file into the tree, if there is one at the path. -/
def takeFile (tree : FileTree) (path : String) : IO FileTree := do
  try
    let content := contentOf (← IO.FS.readBinFile path)
    let made := (tree.makeDirectory ((Path.parent? path).getD "")).toOption.getD tree
    match made.locate path with
    | .ok location => return made.put location (.file content none)
    | .error _ => return tree
  catch _ => return tree

def takeFiles (tree : FileTree) (paths : List String) : IO FileTree := paths.foldlM takeFile tree

/-- The working directory without any of its files. -/
def workingTree (directory : String) : FileTree :=
  let root : FileTree := ⟨[], []⟩
  { (root.makeDirectory directory).toOption.getD root with
    workingDirectory := Path.names directory }

/-- What is left of an earlier provisioning. -/
def provisionedFiles (layout : Layout) : List String :=
  [layout.stateFile, Artifact.resourceFile layout Artifact.providerName]

def proxyFiles (project : Project) : List String :=
  project.registry.servers.map fun server ↦ project.layout.proxyFile server.name

def pathOf (location : Location) : String := "/" ++ "/".intercalate location

def writeNode (before : FileTree) (location : Location) (node : Node) : IO Unit := do
  let path := pathOf location
  if before.node? location == some node then return
  match node with
  | .directory mode =>
    IO.FS.createDirAll path
    if let some mode := mode then IO.Prim.setAccessRights path (.ofNat mode)
  | .file content mode =>
    match content with
    | .text text => IO.FS.writeFile path text
    | .bytes bytes => IO.FS.writeBinFile path ⟨(bytes.map UInt8.ofNat).toArray⟩
    if let some mode := mode then IO.Prim.setAccessRights path (.ofNat mode)

def writeChanges (before after : FileTree) : IO Unit := do
  for (location, node) in after.nodes do
    writeNode before location node
  for (location, _) in before.nodes do
    if (after.node? location).isNone then IO.FS.removeFile (pathOf location)

/-! ### Running -/

def variableOf (entry : List Char) : Option (String × String) :=
  (Text.splitFirst? '=' entry).map fun (name, value) ↦ (String.ofList name, String.ofList value)

def environment : IO (List (String × String)) := do
  try
    let text ← IO.FS.readFile "/proc/self/environ"
    return (Text.splitAt '\x00' text.toList).filterMap variableOf
  catch _ => return []

def surroundings (environment : List (String × String)) : Surroundings :=
  ⟨environment, Programs.none, fun registry _ ↦ .withoutToken registry.host registry.tokenVariable,
    Rollout.inTurn, .inTurn⟩

/-- The files that a command can look at. -/
def gather (around : Surroundings) (a : Arguments) : IO FileTree := do
  let directory := toString (← IO.currentDir)
  let options := a.project
  let scaffold := Path.join ((a.get? "--path").getD ".") Settings.fileName
  let tree ← takeFiles (workingTree directory)
    ([options.settings, options.config, scaffold] ++ a.namedFiles)
  let tree ← match Project.loadSettings tree options.settings with
    | .ok settings => takeFiles tree (provisionedFiles (Project.layoutOf options.output settings))
    | .error _ => pure tree
  match Project.load around options tree with
  | .ok project => takeFiles tree (proxyFiles project)
  | .error _ => return tree

def run (name : String) (a : Arguments) : IO UInt32 := do
  let around := surroundings (← environment)
  match command? around a name with
  | none =>
    IO.eprintln ("unknown command: " ++ name)
    return 2
  | some action =>
    let before ← gather around a
    let (result, session) := action.run (Session.on before)
    writeChanges before session.files
    match result with
    | .ok text =>
      IO.print text
      return 0
    | .error e =>
      IO.eprintln ("Error: " ++ e.message)
      return 1

end ClusterPlan.CommandLine

/-- Run a command by its name and arguments. -/
def main (arguments : List String) : IO UInt32 :=
  match arguments with
  | name :: rest =>
    match ClusterPlan.CommandLine.readArguments ⟨[], []⟩ rest with
    | some a => ClusterPlan.CommandLine.run name a
    | none => do
      IO.eprintln "an option has no value"
      return 2
  | [] => do
    IO.eprintln "usage: shipyard generate | apply | destroy | init"
    return 2
