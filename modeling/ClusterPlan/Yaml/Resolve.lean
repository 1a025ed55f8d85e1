import ClusterPlan.Decimal.Reader
import ClusterPlan.Yaml.Basic

/-!
# Types of plain scalars

What a scalar without quotes stands for: null, a truth value, a whole number, a number with a
fraction, or else its own text. A core tag asks for one of these types.
-/

namespace ClusterPlan.Yaml

def readNull? (s : String) : Bool := s == "null" || s == "Null" || s == "NULL" || s == "~"

def readBool? (s : String) : Option Bool :=
  if s == "true" || s == "True" || s == "TRUE" then some true
  else if s == "false" || s == "False" || s == "FALSE" then some false
  else none

/-- Digits behind a zero, perhaps with a sign: a text, not a number. -/
def hasLeadingZero (cs : List Char) : Bool :=
  let unsigned := match cs with
    | '-' :: rest => rest
    | '+' :: rest => rest
    | cs => cs
  match unsigned with
  | '0' :: c :: rest => (c :: rest).all Char.isDigit
  | _ => false

/-- The size of a whole number in one of the four bases. -/
def readSize? (cs : List Char) : Option Nat :=
  let based := match cs with
    | '0' :: 'x' :: rest => Decimal.readInBase? 16 rest
    | '0' :: 'o' :: rest => Decimal.readInBase? 8 rest
    | '0' :: 'b' :: rest => Decimal.readInBase? 2 rest
    | _ => none
  match based with
  | some n => some n
  | none => if hasLeadingZero cs then none else Decimal.readInBase? 10 cs

def readInt? (cs : List Char) : Option Int :=
  match cs with
  | '-' :: rest => (readSize? rest).map fun n ↦ -(n : Int)
  | '+' :: rest => (readSize? rest).map fun n ↦ (n : Int)
  | cs => (readSize? cs).map fun n ↦ (n : Int)

/-- Whole numbers that values can hold. -/
def fitsWord (n : Int) : Bool := -(Nat.pow 2 63 : Int) ≤ n && n < Nat.pow 2 64

/-- Whole numbers that are recognised as such. -/
def fitsDoubleWord (n : Int) : Bool := -(Nat.pow 2 127 : Int) ≤ n && n < Nat.pow 2 128

/-- A number with a fraction or an exponent; one beyond the doubles is no number. -/
def readFloat? (cs : List Char) : Option Float :=
  let isInfinity (s : String) : Bool := s == ".inf" || s == ".Inf" || s == ".INF"
  let size (cs : List Char) : Option Float := (Decimal.readUnsigned? cs).filter (·.isFinite)
  let s := String.ofList cs
  if s == ".nan" || s == ".NaN" || s == ".NAN" then some (0.0 / 0.0)
  else match cs with
    | '-' :: rest =>
      if isInfinity (String.ofList rest) then some (-1.0 / 0.0) else (size rest).map fun x ↦ -x
    | '+' :: rest =>
      if isInfinity (String.ofList rest) then some (1.0 / 0.0) else size rest
    | cs => if isInfinity s then some (1.0 / 0.0) else size cs

/-- A whole number too large to be held is a fault. -/
def ofInt? (n : Int) : Option Yaml :=
  if fitsWord n then some (number (.int n)) else none

/-- The value of a scalar without quotes. -/
def resolve? (s : String) : Option Yaml :=
  let cs := s.toList
  if s.isEmpty || readNull? s then some null
  else match readBool? s with
    | some b => some (bool b)
    | none =>
      match (readInt? cs).filter fitsDoubleWord with
      | some n => ofInt? n
      | none =>
        if hasLeadingZero cs then some (string s)
        else match readFloat? cs with
          | some x => some (number (.float x))
          | none => some (string s)

/-- Where the core tags are defined. -/
def coreTag (name : String) : String := "tag:yaml.org,2002:" ++ name

/-- The value of a scalar under a tag that is not of the document's own. -/
def resolveCore? (tag s : String) : Option Yaml :=
  if tag = coreTag "bool" then (readBool? s).map bool
  else if tag = coreTag "int" then ((readInt? s.toList).filter fitsDoubleWord).bind ofInt?
  else if tag = coreTag "float" then (readFloat? s.toList).map fun x ↦ number (.float x)
  else if tag = coreTag "null" then if readNull? s then some null else none
  else some (string s)

end ClusterPlan.Yaml
