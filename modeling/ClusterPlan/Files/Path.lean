import ClusterPlan.Text.Split

/-!
# Paths

A path is kept as it was written. Only when it is followed, taken apart or extended does it count as
a row of names: empty names and single points between slashes name nothing.
-/

namespace ClusterPlan.Path

def isAbsolute (path : String) : Bool := path.toList.head? == some '/'

/-- The names of a path, without those that name nothing. -/
def names (path : String) : List String :=
  ((Text.splitAt '/' path.toList).map String.ofList).filter fun name ↦ name != "" && name != "."

/-- Whether a path can only be that of a directory. -/
def endsOpen (path : String) : Bool :=
  match path.toList.reverse with
  | '/' :: _ => true
  | ['.'] => true
  | '.' :: '/' :: _ => true
  | _ => false

/-- A path below another; an absolute path stands for itself. -/
def join (base path : String) : String :=
  if isAbsolute path || base.isEmpty then path
  else if base.toList.getLast? == some '/' then base ++ path
  else base ++ "/" ++ path

/-- Cut off what names nothing from the end of a path, given from its end. A point that begins the
path stays. -/
def cutNothing : List Char → List Char
  | ['/'] => ['/']
  | '/' :: rest => cutNothing rest
  | ['.', '/'] => ['/']
  | '.' :: '/' :: rest => cutNothing rest
  | rest => rest

/-- The path without its last name, if it has one. -/
def parent? (path : String) : Option String :=
  match cutNothing path.toList.reverse with
  | [] => none
  | ['/'] => none
  | reversed =>
    some (String.ofList (cutNothing (reversed.dropWhile fun c ↦ c != '/')).reverse)

def fileName? (path : String) : Option String :=
  (names path).getLast?.filter (· != "..")

/-- The path with another last name; where there is no last name, the name is added. -/
def withFileName (path name : String) : String :=
  match fileName? path with
  | some _ => join ((parent? path).getD "") name
  | none => join path name

end ClusterPlan.Path
