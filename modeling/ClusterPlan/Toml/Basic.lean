/-!
# TOML values

Tables keep their entries in the order of definition and remember how they came about, because that
decides whether a text may add to them.
-/

namespace ClusterPlan

/-- How a table was defined: by its own header, on the way to another, by a dotted key, or as a
value. -/
inductive Toml.Origin where
  | header
  | path
  | dotted
  | inlined
  deriving Repr, DecidableEq

inductive Toml where
  | string (s : String)
  | int (n : Int)
  | bool (b : Bool)
  | float
  | datetime
  | array (items : List Toml)
  | table (origin : Toml.Origin) (entries : List (String × Toml))
  /-- The tables under a header in double brackets, the last one first. -/
  | tables (reversed : List (List (String × Toml)))

namespace Toml

instance : Inhabited Toml := ⟨.table .header []⟩

abbrev Entries := List (String × Toml)

/-- Put a value in the place of one of the same name, or else at the end. -/
def put (name : String) (value : Toml) : Entries → Entries
  | [] => [(name, value)]
  | (k, v) :: rest => if k = name then (k, value) :: rest else (k, v) :: put name value rest

end Toml

end ClusterPlan
