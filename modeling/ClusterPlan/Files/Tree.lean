import ClusterPlan.Files.Path

/-!
# File trees

The part of a file system that a run can see: directories and files with their contents and, where
it was set, their mode. A path leads from the working directory, or from the root, to a location;
the tree changes at locations only.
-/

namespace ClusterPlan

inductive Content where
  | text (s : String)
  | bytes (bytes : List Nat)
  deriving Repr, DecidableEq

/-- The names from the root down. -/
abbrev Location := List String

inductive Node where
  | directory (mode : Option Nat)
  | file (content : Content) (mode : Option Nat)
  deriving Repr, DecidableEq

inductive FileFault where
  | notFound
  | notDirectory
  | isDirectory
  | occupied
  | notText
  | zeroByte
  | nameTooLong
  deriving Repr, DecidableEq

def FileFault.message : FileFault → String
  | notFound => "No such file or directory (os error 2)"
  | notDirectory => "Not a directory (os error 20)"
  | isDirectory => "Is a directory (os error 21)"
  | occupied => "File exists (os error 17)"
  | notText => "stream did not contain valid UTF-8"
  | zeroByte => "file name contained an unexpected NUL byte"
  | nameTooLong => "File name too long (os error 36)"

structure FileTree where
  nodes : List (Location × Node)
  workingDirectory : Location

namespace FileTree

def node? (tree : FileTree) (location : Location) : Option Node :=
  if location.isEmpty then some (.directory none) else tree.nodes.lookup location

def isDirectory (tree : FileTree) (location : Location) : Bool :=
  match tree.node? location with
  | some (.directory _) => true
  | _ => false

def putNode (location : Location) (node : Node) : List (Location × Node) → List (Location × Node)
  | [] => [(location, node)]
  | (l, n) :: rest =>
    if l = location then (location, node) :: rest else (l, n) :: putNode location node rest

def put (tree : FileTree) (location : Location) (node : Node) : FileTree :=
  { tree with nodes := putNode location node tree.nodes }

def erase (tree : FileTree) (location : Location) : FileTree :=
  { tree with nodes := tree.nodes.filter (·.1 != location) }

def start (tree : FileTree) (path : String) : Location :=
  if Path.isAbsolute path then [] else tree.workingDirectory

/-- Follow one name out of a location. -/
def enter (tree : FileTree) (here : Location) (name : String) : Except FileFault Location :=
  match tree.node? here with
  | none => .error .notFound
  | some (.file ..) => .error .notDirectory
  | some (.directory _) =>
    if 255 < name.utf8ByteSize then .error .nameTooLong
    else if name = ".." then .ok here.dropLast
    else .ok (here ++ [name])

def follow (tree : FileTree) (here : Location) : List String → Except FileFault Location
  | [] => .ok here
  | name :: rest =>
    match tree.enter here name with
    | .ok next => tree.follow next rest
    | .error fault => .error fault

/-- Where a path leads. There need not be anything there. -/
def locate (tree : FileTree) (path : String) : Except FileFault Location :=
  if path.toList.contains '\x00' then .error .zeroByte
  else if path.isEmpty then .error .notFound
  else
    match tree.follow (tree.start path) (Path.names path) with
    | .error fault => .error fault
    | .ok location =>
      if Path.endsOpen path && !tree.isDirectory location then
        .error (if (tree.node? location).isSome then .notDirectory else .notFound)
      else .ok location

def readContent (tree : FileTree) (path : String) : Except FileFault Content :=
  match tree.locate path with
  | .error fault => .error fault
  | .ok location =>
    match tree.node? location with
    | none => .error .notFound
    | some (.directory _) => .error .isDirectory
    | some (.file content _) => .ok content

def readText (tree : FileTree) (path : String) : Except FileFault String :=
  match tree.readContent path with
  | .error fault => .error fault
  | .ok (.text s) => .ok s
  | .ok (.bytes _) => .error .notText

def contains (tree : FileTree) (path : String) : Bool :=
  match tree.locate path with
  | .ok location => (tree.node? location).isSome
  | .error _ => false

/-- Whether a path leads to a directory. -/
def leadsToDirectory (tree : FileTree) (path : String) : Bool :=
  match tree.locate path with
  | .ok location => tree.isDirectory location
  | .error _ => false

/-- Follow names and make the directories that are missing on the way. -/
def makeAlong (tree : FileTree) (here : Location) : List String → Except FileFault FileTree
  | [] => .ok tree
  | name :: rest =>
    match tree.enter here name with
    | .error fault => .error fault
    | .ok next =>
      match tree.node? next with
      | some (.directory _) => tree.makeAlong next rest
      | some (.file ..) => .error (if rest.isEmpty then .occupied else .notDirectory)
      | none => (tree.put next (.directory none)).makeAlong next rest

def makeDirectory (tree : FileTree) (path : String) : Except FileFault FileTree :=
  if path.toList.contains '\x00' then .error .zeroByte
  else tree.makeAlong (tree.start path) (Path.names path)

/-- Write a text into a file of an existing directory; a file that was there keeps its mode. -/
def writeText (tree : FileTree) (path text : String) : Except FileFault FileTree :=
  match tree.locate path with
  | .error fault => .error fault
  | .ok location =>
    match tree.node? location with
    | some (.directory _) => .error .isDirectory
    | some (.file _ mode) => .ok (tree.put location (.file (.text text) mode))
    | none =>
      if tree.isDirectory location.dropLast then .ok (tree.put location (.file (.text text) none))
      else .error .notFound

def setMode (tree : FileTree) (path : String) (mode : Nat) : Except FileFault FileTree :=
  match tree.locate path with
  | .error fault => .error fault
  | .ok location =>
    match tree.node? location with
    | none => .error .notFound
    | some (.directory _) => .ok (tree.put location (.directory (some mode)))
    | some (.file content _) => .ok (tree.put location (.file content (some mode)))

/-- Remove a file; a path to nothing is a fault. -/
def removeFile (tree : FileTree) (path : String) : Except FileFault FileTree :=
  match tree.locate path with
  | .error fault => .error fault
  | .ok location =>
    match tree.node? location with
    | none => .error .notFound
    | some (.directory _) => .error .isDirectory
    | some (.file ..) => .ok (tree.erase location)

end FileTree

end ClusterPlan
