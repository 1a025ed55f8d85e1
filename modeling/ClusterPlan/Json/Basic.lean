import ClusterPlan.Decimal.Layout

/-!
# JSON values

An object keeps its fields as they were written, repetitions included. `Json.sorted` is the value
as a reader by name sees it: the last field of a name counts, and names are in order.
-/

namespace ClusterPlan

/-- A number is whole when it is written without point and exponent and fits 64 bits. -/
inductive Json.Number where
  | int (n : Int)
  | float (x : Float)

inductive Json where
  | null
  | bool (b : Bool)
  | number (n : Json.Number)
  | string (s : String)
  | array (items : List Json)
  | object (fields : List (String × Json))

instance : Inhabited Json := ⟨.null⟩

/-- Put a field in its place among fields in order of their names, over one of the same name. -/
def insertSorted {α : Type} (key : String) (value : α) : List (String × α) → List (String × α)
  | [] => [(key, value)]
  | (k, v) :: rest =>
    if key < k then (key, value) :: (k, v) :: rest
    else if key = k then (key, value) :: rest
    else (k, v) :: insertSorted key value rest

/-- Fields in order of their names, the last of each name. -/
def sortFields {α : Type} (fields : List (String × α)) : List (String × α) :=
  fields.foldl (fun sorted (k, v) ↦ insertSorted k v sorted) []

namespace Json

mutual

def sorted : Json → Json
  | .array items => .array (sortedItems items)
  | .object fields => .object (sortFields (sortedFields fields))
  | other => other

def sortedItems : List Json → List Json
  | [] => []
  | item :: rest => item.sorted :: sortedItems rest

def sortedFields : List (String × Json) → List (String × Json)
  | [] => []
  | (k, v) :: rest => (k, v.sorted) :: sortedFields rest

end

/-- The last field of a name. -/
def get? (name : String) : Json → Option Json
  | .object fields => (fields.reverse.find? (·.1 == name)).map (·.2)
  | _ => none

def ofNat (n : Nat) : Json := .number (.int n)

end Json

end ClusterPlan
