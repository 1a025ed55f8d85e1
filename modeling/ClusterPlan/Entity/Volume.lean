import ClusterPlan.Entity.Options

/-!
# Volumes

Block storage of a size in gigabytes, mounted at a path of the one server that claims it.
-/

namespace ClusterPlan.Entity

structure Volume where
  name : String
  size : Float
  path : String

namespace Volume

def fields : List String := ["size", "path"]

def size? (options : Options) : Except Complaint Float :=
  match options.number? "size" with
  | .error e => .error e
  | .ok none => .error (.missing "size" "a number")
  | .ok (some x) => if x > 0.0 then .ok x else .error (.notPositive x)

def path? (options : Options) : Except Complaint String :=
  match options.requiredText "path" with
  | .error e => .error e
  | .ok path => if path.toList.head? = some '/' then .ok path else .error (.notAbsolute path)

def ofOptions (name : String) (options : Options) : Except Complaint Volume := do
  options.checkKnown fields
  let size ← size? options
  let path ← path? options
  return ⟨name, size, path⟩

def build (name : String) (options : Yaml) : Except Invalid Volume :=
  built .volume name (Options.ofYaml options >>= ofOptions name)

/-- The size as text, in full. -/
def sizeText (volume : Volume) : String := Decimal.Layout.plain.write volume.size

end Volume

end ClusterPlan.Entity
