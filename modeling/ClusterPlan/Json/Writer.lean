import ClusterPlan.Json.Basic

/-!
# Writing JSON

`Json.compact` writes a value without blanks, `Json.pretty` with one line for each item. Both keep
the fields in the order in which the value holds them.
-/

namespace ClusterPlan.Json

/-- Numbers with a fraction: an exponent from `1e+16` up and below `1e-5`, written with its sign;
a number that is not finite has no JSON form. -/
def floatLayout : Decimal.Layout := ⟨.toEven, some (-4), some 16, ".0", true, true, "null", "null"⟩

def Number.text : Number → String
  | .int n => toString n
  | .float x => if x.isFinite then floatLayout.write x else "null"

def hexPair (n : Nat) : List Char :=
  [Nat.digitChar (n / 16), Nat.digitChar (n % 16)]

def escapeChar (c : Char) : List Char :=
  match c with
  | '"' => ['\\', '"']
  | '\\' => ['\\', '\\']
  | '\n' => ['\\', 'n']
  | '\r' => ['\\', 'r']
  | '\t' => ['\\', 't']
  | '\x08' => ['\\', 'b']
  | '\x0c' => ['\\', 'f']
  | c => if c.toNat < 32 then ['\\', 'u', '0', '0'] ++ hexPair c.toNat else [c]

def quote (s : String) : String := String.ofList ('"' :: s.toList.flatMap escapeChar ++ ['"'])

mutual

def compact : Json → String
  | .null => "null"
  | .bool true => "true"
  | .bool false => "false"
  | .number n => n.text
  | .string s => quote s
  | .array items => "[" ++ ",".intercalate (compactItems items) ++ "]"
  | .object fields => "\x7b" ++ ",".intercalate (compactFields fields) ++ "\x7d"

def compactItems : List Json → List String
  | [] => []
  | item :: rest => item.compact :: compactItems rest

def compactFields : List (String × Json) → List String
  | [] => []
  | (k, v) :: rest => (quote k ++ ":" ++ v.compact) :: compactFields rest

end

/-- Items on lines of their own between two brackets, or just the brackets. -/
def block (opening closing : String) (indent : String) (items : List String) : String :=
  if items.isEmpty then opening ++ closing
  else
    let lines := items.map fun item ↦ indent ++ "  " ++ item
    opening ++ "\n" ++ ",\n".intercalate lines ++ "\n" ++ indent ++ closing

mutual

def prettyAt (indent : String) : Json → String
  | .array items => block "[" "]" indent (prettyItems (indent ++ "  ") items)
  | .object fields => block "\x7b" "\x7d" indent (prettyFields (indent ++ "  ") fields)
  | .null => "null"
  | .bool true => "true"
  | .bool false => "false"
  | .number n => n.text
  | .string s => quote s

def prettyItems (indent : String) : List Json → List String
  | [] => []
  | item :: rest => item.prettyAt indent :: prettyItems indent rest

def prettyFields (indent : String) : List (String × Json) → List String
  | [] => []
  | (k, v) :: rest => (quote k ++ ": " ++ v.prettyAt indent) :: prettyFields indent rest

end

def pretty (j : Json) : String := j.prettyAt ""

end ClusterPlan.Json
