import ClusterPlan.Template.Error

/-!
# Contexts

The names that expressions can use, in the order in which they were first bound. One name stands
for the context as a whole and cannot be bound.
-/

namespace ClusterPlan.Template

def reservedName : String := "__context"

structure Context where
  entries : List (String × Value)

namespace Context

def empty : Context := ⟨[]⟩

instance : EmptyCollection Context := ⟨empty⟩

/-- Bind a name in the place where it is bound already, or else at the end. -/
def putEntry (name : String) (value : Value) : List (String × Value) → List (String × Value)
  | [] => [(name, value)]
  | (k, v) :: rest =>
    if k = name then (k, value) :: rest else (k, v) :: putEntry name value rest

def put (context : Context) (name : String) (value : Value) : Context :=
  ⟨putEntry name value context.entries⟩

def insert (context : Context) (name : String) (value : Value) : Except Error Context :=
  if name = reservedName then .error (.reserved name) else .ok (context.put name value)

def get? (context : Context) (name : String) : Option Value := context.entries.lookup name

def contains (context : Context) (name : String) : Bool := (context.get? name).isSome

def names (context : Context) : List String := context.entries.map (·.1)

def size (context : Context) : Nat := context.entries.length

def isEmpty (context : Context) : Bool := context.entries.isEmpty

/-- Bind all names of another context, in its order. -/
def extend (context other : Context) : Context :=
  other.entries.foldl (fun context (k, v) ↦ context.put k v) context

/-- Bind names one after the other, up to the first that cannot be bound. -/
def insertAll (context : Context) : List (String × Value) → Except Error Context
  | [] => .ok context
  | (name, value) :: rest =>
    match context.insert name value with
    | .ok context => context.insertAll rest
    | .error e => .error e

/-- The context as an object. -/
def toValue (context : Context) : Value := Value.ofFields context.entries

end Context

end ClusterPlan.Template
