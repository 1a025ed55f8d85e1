import ClusterPlan.Decimal.Reader
import ClusterPlan.Json.Reader
import ClusterPlan.Json.Writer
import ClusterPlan.Text.Blank
import ClusterPlan.Text.Quoted
import ClusterPlan.Text.Split

/-!
# Exposed ports

The report of the ports that an image exposes: an object whose names are ports with protocols, such
as `8080/tcp`. Read without their protocols they are numbers in order, each with the last text that
was given for it.
-/

namespace ClusterPlan.ExposedPorts

inductive Fault where
  | unreadable
  | notObject (report : Json)
  | notPort (name : String)

/-- An unreadable report is described by its reader alone. -/
def Fault.message? : Fault → Option String
  | unreadable => none
  | notObject report => some ("expected an object of ports, got " ++ report.sorted.compact)
  | notPort name => some ("invalid exposed port " ++ Text.quoted name)

def numberLimit : Nat := 65535

/-- The number of an exposed port with the text that it is written by. -/
def numbered? (name : String) : Option (Nat × String) :=
  let digits := name.toList.takeWhile (· != '/')
  (Decimal.readBounded? numberLimit digits).map (·, String.ofList digits)

/-- Put a text in the place of its number, over one of the same number. -/
def insert (number : Nat) (text : String) : List (Nat × String) → List (Nat × String)
  | [] => [(number, text)]
  | (n, t) :: rest =>
    if number < n then (number, text) :: (n, t) :: rest
    else if number = n then (number, text) :: rest
    else (n, t) :: insert number text rest

def collect (found : List (Nat × String)) : List String → Except Fault (List String)
  | [] => .ok (found.map (·.2))
  | name :: rest =>
    match numbered? name with
    | some (number, text) => collect (insert number text found) rest
    | none => .error (.notPort name)

/-- The names of the fields in order. -/
def fieldNames (fields : List (String × Json)) : List String := (sortFields fields).map (·.1)

def ofJson : Json → Except Fault (List String)
  | .null => .ok []
  | .object fields => collect [] (fieldNames fields)
  | report => .error (.notObject report)

def read (text : String) : Except Fault (List String) :=
  match (Json.read? (Text.trim text)).filter Json.inRange with
  | some report => ofJson report
  | none => .error .unreadable

end ClusterPlan.ExposedPorts
