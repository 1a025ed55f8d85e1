/-!
# Writing TOML strings

A string is written between single quotes when that saves escapes, over several lines when it has
line breaks, and otherwise between double quotes.
-/

namespace ClusterPlan.Toml

/-- A character that no string can hold unescaped, line breaks and tabs aside. -/
def needsEscape (c : Char) : Bool :=
  (c.toNat < 32 && c != '\t' && c != '\n') || c.toNat == 127

/-- The longest run of single quotes. -/
def longestQuoteRun : Nat → Nat → List Char → Nat
  | longest, current, [] => max longest current
  | longest, current, c :: rest =>
    if c == '\'' then longestQuoteRun longest (current + 1) rest
    else longestQuoteRun (max longest current) 0 rest

/-- Whether a string is better off without escapes, and can do without them. -/
def isLiteral (cs : List Char) : Bool :=
  cs.any (fun c ↦ c == '\\' || c == '"') && !cs.any needsEscape &&
    longestQuoteRun 0 0 cs < 3 && cs.getLast? != some '\''

def hex4 (n : Nat) : List Char :=
  [n / 4096, n / 256 % 16, n / 16 % 16, n % 16].map fun d ↦ (Nat.digitChar d).toUpper

def escapeChar (multiline : Bool) (c : Char) : List Char :=
  match c with
  | '\x08' => ['\\', 'b']
  | '\t' => ['\\', 't']
  | '\n' => if multiline then ['\n'] else ['\\', 'n']
  | '\x0c' => ['\\', 'f']
  | '\r' => ['\\', 'r']
  | '"' => ['\\', '"']
  | '\\' => ['\\', '\\']
  | c => if needsEscape c then ['\\', 'u'] ++ hex4 c.toNat else [c]

def writeString (s : String) : String :=
  let cs := s.toList
  let multiline := cs.contains '\n'
  if isLiteral cs then
    if multiline then "'''\n" ++ s ++ "'''"
    else if cs.contains '\'' then "'''" ++ s ++ "'''"
    else "'" ++ s ++ "'"
  else
    let body := String.ofList (cs.flatMap (escapeChar multiline))
    if multiline then "\"\"\"\n" ++ body ++ "\"\"\"" else "\"" ++ body ++ "\""

end ClusterPlan.Toml
