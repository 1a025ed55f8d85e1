import ClusterPlan.Json.Writer

/-!
# Template values

What an expression evaluates to. The fields of an object are in order of their names, each name
once. A function is known by its name alone; what a call of it answers is for its host to say.
-/

namespace ClusterPlan

namespace Decimal

/-- The whole number that a double is, if it is one. -/
def whole? (x : Float) : Option Int :=
  match Double.ofFloat x with
  | .finite negative significand exponent =>
    let signed : Int := if negative then -significand else significand
    if 0 ≤ exponent then some (signed * Nat.pow 2 exponent.toNat)
    else
      let unit : Int := Nat.pow 2 (-exponent).toNat
      if signed % unit = 0 then some (signed / unit) else none
  | _ => none

end Decimal

namespace Template

inductive Kind where
  | undefined | null | boolean | number | string | array | object | function
  deriving Repr, DecidableEq

def Kind.name : Kind → String
  | undefined => "undefined"
  | null => "null"
  | boolean => "boolean"
  | number => "number"
  | string => "string"
  | array => "array"
  | object => "object"
  | function => "function"

inductive Value where
  | undefined
  | null
  | bool (b : Bool)
  | number (x : Float)
  | string (s : String)
  | array (items : List Value)
  | object (fields : List (String × Value))
  | function (name : String)

namespace Value

instance : Inhabited Value := ⟨.undefined⟩

def kind : Value → Kind
  | undefined => .undefined
  | null => .null
  | bool _ => .boolean
  | number _ => .number
  | string _ => .string
  | array _ => .array
  | object _ => .object
  | function _ => .function

/-- The object of some fields, of which the last of a name counts. -/
def ofFields (fields : List (String × Value)) : Value := .object (sortFields fields)

/-- A text, or null where there is none. -/
def ofText? : Option String → Value
  | some s => .string s
  | none => .null

def isTruthy : Value → Bool
  | undefined | null => false
  | bool b => b
  | number x => x != 0.0 && !x.isNaN
  | string s => !s.isEmpty
  | array _ | object _ | function _ => true

def isNullish : Value → Bool
  | undefined | null => true
  | _ => false

def text? : Value → Option String
  | string s => some s
  | _ => none

def ofNat (n : Nat) : Value := .number (Decimal.nearest n 1)

/-- The member of a name: undefined where it is missing, nothing where there are no members. -/
def member? (name : String) : Value → Option Value
  | object fields => some ((fields.lookup name).getD .undefined)
  | array items => some (if name = "length" then ofNat items.length else .undefined)
  | string s => some (if name = "length" then ofNat s.length else .undefined)
  | bool _ | number _ => some .undefined
  | undefined | null | function _ => none

mutual

/-- Equality of data: null equals undefined, a function equals nothing. -/
def looseEq : Value → Value → Bool
  | undefined, other | null, other => other.isNullish
  | bool a, bool b => a == b
  | number a, number b => a == b
  | string a, string b => a == b
  | array as, array bs => looseEqItems as bs
  | object as, object bs => looseEqFields as bs
  | _, _ => false

def looseEqItems : List Value → List Value → Bool
  | [], [] => true
  | a :: as, b :: bs => a.looseEq b && looseEqItems as bs
  | _, _ => false

def looseEqFields : List (String × Value) → List (String × Value) → Bool
  | [], [] => true
  | (k, a) :: as, (l, b) :: bs => k == l && a.looseEq b && looseEqFields as bs
  | _, _ => false

end

/-- Whole numbers below nine quadrillions in size are written as such. -/
def jsonNumber (x : Float) : Json :=
  if !x.isFinite then .null
  else match Decimal.whole? x with
    | some n => if n.natAbs < 9 * Nat.pow 10 15 then .number (.int n) else .number (.float x)
    | none => .number (.float x)

mutual

def toJson : Value → Json
  | undefined | null | function _ => .null
  | bool b => .bool b
  | number x => jsonNumber x
  | string s => .string s
  | array items => .array (itemsToJson items)
  | object fields => .object (fieldsToJson fields)

def itemsToJson : List Value → List Json
  | [] => []
  | item :: rest => item.toJson :: itemsToJson rest

def fieldsToJson : List (String × Value) → List (String × Json)
  | [] => []
  | (k, v) :: rest => (k, v.toJson) :: fieldsToJson rest

end

mutual

def ofJson : Json → Value
  | .null => .null
  | .bool b => .bool b
  | .number (.int n) =>
    .number (if n < 0 then -Decimal.nearest n.natAbs 1 else Decimal.nearest n.natAbs 1)
  | .number (.float x) => .number x
  | .string s => .string s
  | .array items => .array (itemsOfJson items)
  | .object fields => ofFields (fieldsOfJson fields)

def itemsOfJson : List Json → List Value
  | [] => []
  | item :: rest => ofJson item :: itemsOfJson rest

def fieldsOfJson : List (String × Json) → List (String × Value)
  | [] => []
  | (k, v) :: rest => (k, ofJson v) :: fieldsOfJson rest

end

/-- All digits of a number, without an exponent; zero has no sign. -/
def numberLayout : Decimal.Layout :=
  ⟨.upward, none, none, "", false, false, "Infinity", "NaN"⟩

def numberText (x : Float) : String := numberLayout.write x

/-- A value as text; arrays and objects are written as JSON. -/
def text : Value → String
  | undefined => "undefined"
  | null => "null"
  | bool true => "true"
  | bool false => "false"
  | number x => numberText x
  | string s => s
  | function name => "[function " ++ name ++ "]"
  | other => other.toJson.compact

end Value

end Template

end ClusterPlan
