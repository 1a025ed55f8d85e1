import ClusterPlan.Decimal.Layout
import ClusterPlan.Json.Basic
import ClusterPlan.Text.Quoted

/-!
# Document values

The data of a document: scalars with their types, sequences, mappings in the order of their entries,
and tagged values. Where a scalar is wanted, a tag in front of it is looked through; where a
container is wanted, it is not.
-/

namespace ClusterPlan

inductive Yaml.Number where
  | int (n : Int)
  | float (x : Float)

inductive Yaml where
  | null
  | bool (b : Bool)
  | number (n : Yaml.Number)
  | string (s : String)
  | sequence (items : List Yaml)
  | mapping (entries : List (Yaml × Yaml))
  | tagged (tag : String) (value : Yaml)

namespace Yaml

instance : Inhabited Yaml := ⟨.null⟩

def untagged : Yaml → Yaml
  | tagged _ value => value.untagged
  | other => other

def isNull (v : Yaml) : Bool :=
  match v.untagged with
  | null => true
  | _ => false

def text? (v : Yaml) : Option String :=
  match v.untagged with
  | string s => some s
  | _ => none

/-- The value under an untagged key. -/
def lookup (name : String) : List (Yaml × Yaml) → Option Yaml
  | [] => none
  | (string key, value) :: rest => if key = name then some value else lookup name rest
  | _ :: rest => lookup name rest

def Number.toFloat : Number → Float
  | int n => if n < 0 then -Decimal.nearest n.natAbs 1 else Decimal.nearest n.natAbs 1
  | float x => x

/-- Numbers with a fraction: an exponent from `1e16` up and below `1e-5`. -/
def floatLayout : Decimal.Layout :=
  ⟨.toEven, some (-4), some 16, ".0", false, true, ".inf", ".nan"⟩

def Number.text : Number → String
  | int n => toString n
  | float x => floatLayout.write x

/-! ### Sameness of values -/

/-- Floats are the same when they are equal or both are no number. -/
def Number.same : Number → Number → Bool
  | int a, int b => a == b
  | float a, float b => a == b || (a.isNaN && b.isNaN)
  | _, _ => false

mutual

def same : Yaml → Yaml → Bool
  | null, null => true
  | bool a, bool b => a == b
  | number a, number b => a.same b
  | string a, string b => a == b
  | sequence as, sequence bs => sameItems as bs
  | mapping as, mapping bs => as.length == bs.length && sameEntries as bs
  | tagged s a, tagged t b => s == t && a.same b
  | _, _ => false

def sameItems : List Yaml → List Yaml → Bool
  | [], [] => true
  | a :: as, b :: bs => a.same b && sameItems as bs
  | _, _ => false

/-- Whether each entry has its like in a mapping, in any place. -/
def sameEntries : List (Yaml × Yaml) → List (Yaml × Yaml) → Bool
  | [], _ => true
  | (k, v) :: rest, bs => bs.any (fun (l, w) ↦ k.same l && v.same w) && sameEntries rest bs

end

mutual

/-- Whether no mapping has two entries of the same key. -/
def keysDistinct : Yaml → Bool
  | sequence items => keysDistinctItems items
  | mapping entries => keysDistinctEntries entries
  | tagged _ value => value.keysDistinct
  | _ => true

def keysDistinctItems : List Yaml → Bool
  | [] => true
  | item :: rest => item.keysDistinct && keysDistinctItems rest

def keysDistinctEntries : List (Yaml × Yaml) → Bool
  | [] => true
  | (k, v) :: rest =>
    k.keysDistinct && v.keysDistinct && rest.all (fun (l, _) ↦ !k.same l) &&
      keysDistinctEntries rest

end

mutual

/-- How deep containers nest. -/
def height : Yaml → Nat
  | sequence items => heightItems items + 1
  | mapping entries => heightEntries entries + 1
  | tagged _ value => value.height
  | _ => 0

def heightItems : List Yaml → Nat
  | [] => 0
  | item :: rest => max item.height (heightItems rest)

def heightEntries : List (Yaml × Yaml) → Nat
  | [] => 0
  | (k, v) :: rest => max (max k.height v.height) (heightEntries rest)

end

/-! ### Values in errors -/

mutual

/-- A value with the names of its types, as errors show it. -/
def description : Yaml → String
  | null => "Null"
  | bool b => "Bool(" ++ toString b ++ ")"
  | number n => "Number(" ++ n.text ++ ")"
  | string s => "String(" ++ Text.quoted s ++ ")"
  | sequence items => "Sequence [" ++ ", ".intercalate (describeItems items) ++ "]"
  | mapping entries => "Mapping \x7b" ++ ", ".intercalate (describeEntries entries) ++ "\x7d"
  | tagged tag value => "TaggedValue \x7b tag: !" ++ tag ++ ", value: " ++ value.description ++
      " \x7d"

def describeItems : List Yaml → List String
  | [] => []
  | item :: rest => item.description :: describeItems rest

/-- A key that is a scalar stands without the name of its type. -/
def describeEntries : List (Yaml × Yaml) → List String
  | [] => []
  | (k, v) :: rest =>
    let key := match k with
      | bool b => toString b
      | number n => n.text
      | string s => Text.quoted s
      | other => other.description
    (key ++ ": " ++ v.description) :: describeEntries rest

end

mutual

/-- A JSON value as a document value of the same types. -/
def ofJson : Json → Yaml
  | .null => null
  | .bool b => bool b
  | .number (.int n) => number (.int n)
  | .number (.float x) => number (.float x)
  | .string s => string s
  | .array items => sequence (itemsOfJson items)
  | .object fields => mapping (fieldsOfJson fields)

def itemsOfJson : List Json → List Yaml
  | [] => []
  | item :: rest => ofJson item :: itemsOfJson rest

def fieldsOfJson : List (String × Json) → List (Yaml × Yaml)
  | [] => []
  | (k, v) :: rest => (string k, ofJson v) :: fieldsOfJson rest

end

end Yaml

end ClusterPlan
