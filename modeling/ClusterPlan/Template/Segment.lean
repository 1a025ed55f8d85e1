/-!
# Segments of a template

A template is static text with expressions between `${` and the brace that closes it. Braces inside
an expression are counted, so it may hold objects. A backslash before `${` takes away its meaning
and stands for nothing itself.
-/

namespace ClusterPlan.Template

inductive Segment where
  | static (text : String)
  | dynamic (source : String)
  deriving Repr, DecidableEq

namespace Segment

/-- Static text that has been held back, the last character first, in front of more segments. -/
def flush (held : List Char) (rest : List Segment) : List Segment :=
  if held.isEmpty then rest else .static (String.ofList held.reverse) :: rest

/-- Scan with `depth` braces open, of which the first belongs to `${`. Inside an expression that
does not end, the number of open braces is the error. -/
def scan : Nat → List Char → List Char → Except Nat (List Segment)
  | 0, held, [] => .ok (flush held [])
  | 0, held, '\\' :: '$' :: '\x7b' :: rest => scan 0 ('\x7b' :: '$' :: held) rest
  | 0, held, '$' :: '\x7b' :: rest => (scan 1 [] rest).map (flush held)
  | 0, held, c :: rest => scan 0 (c :: held) rest
  | depth + 1, _, [] => .error (depth + 1)
  | depth + 1, held, '\x7b' :: rest => scan (depth + 2) ('\x7b' :: held) rest
  | 1, held, '\x7d' :: rest =>
    (scan 0 [] rest).map (.dynamic (String.ofList held.reverse) :: ·)
  | depth + 2, held, '\x7d' :: rest => scan (depth + 1) ('\x7d' :: held) rest
  | depth + 1, held, c :: rest => scan (depth + 1) (c :: held) rest

/-- The segments of a template, none of them an empty static text, or the number of braces that are
missing at its end. -/
def lex (template : String) : Except Nat (List Segment) := scan 0 [] template.toList

end Segment

end ClusterPlan.Template
