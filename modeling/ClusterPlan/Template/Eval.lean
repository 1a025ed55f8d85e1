import ClusterPlan.Activity
import ClusterPlan.Template.Context

/-!
# Evaluation

The value of an expression in a context. Items of arrays, values of objects and arguments of calls
are joined; everything else is evaluated from left to right, and the right side of `&&`, `||` and
`??` and the branches of a conditional only where they decide the value.
-/

namespace ClusterPlan.Template

structure Call where
  name : String
  arguments : List Value

/-- The answer to a call, after so many waits. -/
structure Reply where
  waits : Nat
  result : Except Error Value

/-- The functions that values name. -/
abbrev Functions := String → List Value → Reply

abbrev Evaluation (α : Type) : Type := Activity Call Error α

def Literal.value : Literal → Value
  | undefined => .undefined
  | null => .null
  | bool b => .bool b
  | number x => .number x
  | string s => .string s

def Context.lookup (context : Context) (name : String) : Except Error Value :=
  if name = reservedName then .ok context.toValue
  else match context.get? name with
    | some value => .ok value
    | none => .error (.unknownIdentifier name)

namespace Value

def member (name : String) (target : Value) : Except Error Value :=
  match target.member? name with
  | some value => .ok value
  | none => .error (.mismatch (.noMembers name target.kind))

/-- The place in a sequence that a number names. -/
def place? (x : Float) : Option Nat :=
  match Decimal.whole? x with
  | some (.ofNat n) => some n
  | _ => none

/-- A number picks an item of an array or a character of a string; any other key is the name of a
member. -/
def item (key target : Value) : Except Error Value :=
  match target, key with
  | array items, number x => .ok (((place? x).bind (items[·]?)).getD .undefined)
  | string s, number x =>
    .ok ((((place? x).bind (s.toList[·]?)).map fun c ↦ .string (String.singleton c)).getD
      .undefined)
  | _, _ => target.member key.text

def asNumber (operator : String) : Value → Except Error Float
  | number x => .ok x
  | other => .error (.mismatch (.notNumber operator other.kind))

def arithmetic (operator : String) (f : Float → Float → Float) (left right : Value) :
    Except Error Value :=
  match left.asNumber operator with
  | .error e => .error e
  | .ok a =>
    match right.asNumber operator with
    | .error e => .error e
    | .ok b => .ok (.number (f a b))

/-- Two strings compare by their characters, anything else must be two numbers; a number that is
none is in no order. -/
def compare (strings : String → String → Bool) (numbers : Float → Float → Bool)
    (left right : Value) : Except Error Value :=
  match left, right with
  | string a, string b => .ok (.bool (strings a b))
  | _, _ =>
    match left.asNumber "<" with
    | .error e => .error e
    | .ok a =>
      match right.asNumber "<" with
      | .error e => .error e
      | .ok b => .ok (.bool (numbers a b))

/-- A sum with a string on either side is the text of both. -/
def add (left right : Value) : Except Error Value :=
  match left, right with
  | string a, _ => .ok (.string (a ++ right.text))
  | _, string b => .ok (.string (left.text ++ b))
  | _, _ => arithmetic "+" (· + ·) left right

end Value

/-- An operator whose two sides are both evaluated. -/
def BinaryOp.apply (op : BinaryOp) (left right : Value) : Except Error Value :=
  match op with
  | add => left.add right
  | sub => Value.arithmetic "-" (· - ·) left right
  | mul => Value.arithmetic "*" (· * ·) left right
  | div => Value.arithmetic "/" (· / ·) left right
  | rem => Value.arithmetic "%" Decimal.remainder left right
  | eq => .ok (.bool (left.looseEq right))
  | ne => .ok (.bool (!left.looseEq right))
  | lt => Value.compare (fun a b ↦ decide (a < b)) (fun a b ↦ decide (a < b)) left right
  | le => Value.compare (fun a b ↦ !decide (b < a)) (fun a b ↦ decide (a ≤ b)) left right
  | gt => Value.compare (fun a b ↦ decide (b < a)) (fun a b ↦ decide (b < a)) left right
  | ge => Value.compare (fun a b ↦ !decide (a < b)) (fun a b ↦ decide (b ≤ a)) left right
  | and | or | nullish => .ok right

/-- Whether an operator is settled by its left side alone. -/
def BinaryOp.settledBy (op : BinaryOp) (left : Value) : Bool :=
  match op with
  | and => !left.isTruthy
  | or => left.isTruthy
  | nullish => !left.isNullish
  | _ => false

def UnaryOp.apply (op : UnaryOp) (operand : Value) : Except Error Value :=
  match op with
  | not => .ok (.bool !operand.isTruthy)
  | neg =>
    match operand.asNumber "-" with
    | .ok x => .ok (.number (-x))
    | .error e => .error e

def Functions.call (functions : Functions) (callee : Value) (arguments : List Value) :
    Evaluation Value :=
  match callee with
  | .function name =>
    let reply := functions name arguments
    Activity.call ⟨name, arguments⟩ reply.waits reply.result
  | other => .fail (.mismatch (.notCallable other.kind))

namespace Expr

mutual

def evaluate (functions : Functions) (context : Context) : Expr → Evaluation Value
  | literal l => pure l.value
  | ident name => .ofExcept (context.lookup name)
  | array items =>
    (Activity.join (evaluateAll functions context items)).andThen fun values ↦
      pure (.array values)
  | object fields =>
    (Activity.join (evaluateFields functions context fields)).andThen fun values ↦
      pure (.ofFields ((fields.map (·.1)).zip values))
  | member target name =>
    (target.evaluate functions context).andThen fun target ↦ .ofExcept (target.member name)
  | index target key =>
    (target.evaluate functions context).andThen fun target ↦
      (key.evaluate functions context).andThen fun key ↦ .ofExcept (Value.item key target)
  | call callee arguments =>
    (callee.evaluate functions context).andThen fun callee ↦
      match callee with
      | .function name =>
        (Activity.join (evaluateAll functions context arguments)).andThen fun values ↦
          functions.call (.function name) values
      | other => .fail (.mismatch (.notCallable other.kind))
  | unary op operand =>
    (operand.evaluate functions context).andThen fun value ↦ .ofExcept (op.apply value)
  | binary op left right =>
    (left.evaluate functions context).andThen fun a ↦
      if op.settledBy a then pure a
      else (right.evaluate functions context).andThen fun b ↦ .ofExcept (op.apply a b)
  | conditional condition yes no =>
    (condition.evaluate functions context).andThen fun value ↦
      if value.isTruthy then yes.evaluate functions context
      else no.evaluate functions context

def evaluateAll (functions : Functions) (context : Context) : List Expr → List (Evaluation Value)
  | [] => []
  | e :: rest => e.evaluate functions context :: evaluateAll functions context rest

def evaluateFields (functions : Functions) (context : Context) :
    List (String × Expr) → List (Evaluation Value)
  | [] => []
  | (_, e) :: rest => e.evaluate functions context :: evaluateFields functions context rest

end

end Expr

end ClusterPlan.Template
