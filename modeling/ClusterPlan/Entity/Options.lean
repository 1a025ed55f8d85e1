import ClusterPlan.Entity.Complaint
import ClusterPlan.Text.Blank

/-!
# Options of an entity

Typed access to the fields of an entity. Null options have no fields, and a null field is absent.
-/

namespace ClusterPlan.Entity

abbrev Options := List (Yaml × Yaml)

namespace Options

def ofYaml : Yaml → Except Complaint Options
  | .mapping entries => .ok entries
  | .null => .ok []
  | other => .error (.notMapping other)

def get? (options : Options) (field : String) : Option Yaml :=
  (Yaml.lookup field options).filter fun v ↦ !v.isNull

/-- Every key must be one of the known fields; a key that is no text counts as an empty one. -/
def checkKnown (known : List String) : Options → Except Complaint Unit
  | [] => .ok ()
  | (key, _) :: rest =>
    let field := key.text?.getD ""
    if known.contains field then checkKnown known rest else .error (.unknownField field known)

def text? (options : Options) (field : String) : Except Complaint (Option String) :=
  match options.get? field with
  | none => .ok none
  | some (.string s) => .ok (some s)
  | some other => .error (.wrongType field "a string" other)

/-- A text that is not blank. -/
def requiredText (options : Options) (field : String) : Except Complaint String :=
  match options.text? field with
  | .error e => .error e
  | .ok (some s) => if Text.isBlankText s then .error (.blankText field) else .ok s
  | .ok none => .error (.missing field "a string")

/-- A text in which something stands; a blank one counts as absent. -/
def filledText? (options : Options) (field : String) : Except Complaint (Option String) :=
  (options.text? field).map fun text ↦ text.filter fun s ↦ !Text.isBlankText s

def number? (options : Options) (field : String) : Except Complaint (Option Float) :=
  match options.get? field with
  | none => .ok none
  | some (.number n) => .ok (some n.toFloat)
  | some other => .error (.wrongType field "a number" other)

/-- One text of a list, where a number may stand for its own text. -/
def itemText (field : String) (numbers : Bool) (item : Yaml) : Except Complaint String :=
  match item with
  | .string s => .ok s
  | .number n => if numbers then .ok n.text else .error (.wrongItem field item)
  | other => .error (.wrongItem field other)

def itemTexts (field : String) (numbers : Bool) : List Yaml → Except Complaint (List String)
  | [] => .ok []
  | item :: rest =>
    match itemText field numbers item with
    | .error e => .error e
    | .ok s => (itemTexts field numbers rest).map (s :: ·)

def texts (options : Options) (field : String) (numbers : Bool) :
    Except Complaint (List String) :=
  match options.get? field with
  | none => .ok []
  | some (.sequence items) => itemTexts field numbers items
  | some other => .error (.wrongType field "a list of strings" other)

def requiredTexts (options : Options) (field : String) (numbers : Bool) :
    Except Complaint (List String) :=
  if (options.get? field).isNone then .error (.missing field "a non-empty list")
  else match options.texts field numbers with
    | .error e => .error e
    | .ok [] => .error (.emptyList field)
    | .ok items => .ok items

def portLimit : Nat := 65535

/-- A whole number that is a port. -/
def port? (item : Yaml) : Option Nat :=
  match item.untagged with
  | .number (.int n) => if 0 < n ∧ n ≤ portLimit then some n.toNat else none
  | _ => none

def portItems (field : String) : List Yaml → Except Complaint (List Nat)
  | [] => .ok []
  | item :: rest =>
    match port? item with
    | none => .error (.wrongPort field item)
    | some n => (portItems field rest).map (n :: ·)

def ports (options : Options) (field : String) : Except Complaint (List Nat) :=
  match options.get? field with
  | none => .ok []
  | some (.sequence items) => portItems field items
  | some other => .error (.wrongType field "a list of ports" other)

/-- The text of a scalar; null is the empty text. -/
def scalarText? : Yaml → Option String
  | .string s => some s
  | .number n => some n.text
  | .bool true => some "true"
  | .bool false => some "false"
  | .null => some ""
  | _ => none

def entryTexts (field : String) :
    List (Yaml × Yaml) → Except Complaint (List (String × String))
  | [] => .ok []
  | (key, value) :: rest =>
    match key.text? with
    | none => .error (.wrongKey field key)
    | some name =>
      match scalarText? value with
      | none => .error (.wrongEntry field name value)
      | some s => (entryTexts field rest).map ((name, s) :: ·)

/-- A mapping of texts, in order of the keys. -/
def textMap (options : Options) (field : String) : Except Complaint (List (String × String)) :=
  match options.get? field with
  | none => .ok []
  | some (.mapping entries) => (entryTexts field entries).map sortFields
  | some other => .error (.wrongType field "a mapping of strings" other)

end Options

/-- The outcome of building the entity of a kind and a name. -/
def built {α : Type} (kind : Kind) (name : String) (result : Except Complaint α) :
    Except Invalid α :=
  result.mapError (⟨kind, name, ·⟩)

end ClusterPlan.Entity
