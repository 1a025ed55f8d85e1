/-!
# Expressions

The tree of an expression. `&&`, `||` and `??` are operators like the others here; that they leave
out their right side is a matter of evaluation.
-/

namespace ClusterPlan.Template

inductive Literal where
  | undefined
  | null
  | bool (b : Bool)
  | number (x : Float)
  | string (s : String)

inductive UnaryOp where
  | neg
  | not
  deriving Repr, DecidableEq

inductive BinaryOp where
  | add | sub | mul | div | rem
  | eq | ne | lt | le | gt | ge
  | and | or | nullish
  deriving Repr, DecidableEq

inductive Expr where
  | literal (value : Literal)
  | ident (name : String)
  | array (items : List Expr)
  | object (fields : List (String × Expr))
  | member (target : Expr) (name : String)
  | index (target index : Expr)
  | call (callee : Expr) (arguments : List Expr)
  | unary (op : UnaryOp) (operand : Expr)
  | binary (op : BinaryOp) (left right : Expr)
  | conditional (condition yes no : Expr)

instance : Inhabited Expr := ⟨.literal .undefined⟩

end ClusterPlan.Template
