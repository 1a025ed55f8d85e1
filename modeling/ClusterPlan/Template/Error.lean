import ClusterPlan.Template.Parser

/-!
# What a template can fail by
-/

namespace ClusterPlan.Template

/-- An operation on a value of a kind that it does not work on. -/
inductive Mismatch where
  | noMembers (name : String) (kind : Kind)
  | notCallable (kind : Kind)
  | notNumber (operator : String) (kind : Kind)
  deriving Repr, DecidableEq

def Mismatch.message : Mismatch → String
  | noMembers name kind => "cannot read property `" ++ name ++ "` of " ++ kind.name
  | notCallable kind => kind.name ++ " is not a function"
  | notNumber operator kind =>
    "operator `" ++ operator ++ "` expects a number, got " ++ kind.name

inductive Error where
  | unterminated (missing : Nat)
  | malformed (expression : String) (fault : Fault)
  | unknownIdentifier (name : String)
  | mismatch (cause : Mismatch)
  | reserved (name : String)
  | undefined (expression : String)
  | function (name message : String)

def Error.message : Error → String
  | unterminated missing =>
    "unterminated expression: missing " ++ toString missing ++ " closing brace(s)"
  | malformed expression fault => "syntax error in `" ++ expression ++ "`: " ++ fault.message
  | unknownIdentifier name => "unknown identifier `" ++ name ++ "`"
  | mismatch cause => "type error: " ++ cause.message
  | reserved name => "`" ++ name ++ "` is reserved and cannot be defined in a template context"
  | undefined expression => "expression `" ++ expression ++ "` rendered undefined"
  | function name message => name ++ "(): " ++ message

end ClusterPlan.Template
