import ClusterPlan.Yaml.ScalarStyle

/-!
# Writing documents

A value is written in block style: an entry or an item on lines of its own, entries two columns in
from the key above them, items in line with it. Lines are never folded.
-/

namespace ClusterPlan.Yaml

/-! ### Scalars -/

def upperHex (width n : Nat) : List Char :=
  ((Nat.toDigits 16 (Nat.pow 16 width + n)).drop 1).map Char.toUpper

/-- A character between double quotes. -/
def escapeDouble (c : Char) : List Char :=
  match c with
  | '\x00' => ['\\', '0']
  | '\x07' => ['\\', 'a']
  | '\x08' => ['\\', 'b']
  | '\t' => ['\\', 't']
  | '\n' => ['\\', 'n']
  | '\x0b' => ['\\', 'v']
  | '\x0c' => ['\\', 'f']
  | '\r' => ['\\', 'r']
  | '\x1b' => ['\\', 'e']
  | '"' => ['\\', '"']
  | '\\' => ['\\', '\\']
  | '\u0085' => ['\\', 'N']
  | '\u2028' => ['\\', 'L']
  | '\u2029' => ['\\', 'P']
  | c =>
    if isShown c then [c]
    else if c.toNat ≤ 0xFF then ['\\', 'x'] ++ upperHex 2 c.toNat
    else ['\\', 'u'] ++ upperHex 4 c.toNat

def doubleText (cs : List Char) : List Char := '"' :: cs.flatMap escapeDouble ++ ['"']

/-- The characters of a text with `indent` behind every run of line breaks. -/
def indentLines (indent : List Char) : (atBreak : Bool) → List Char → List Char
  | _, [] => []
  | atBreak, c :: rest =>
    if isBreak c then c :: indentLines indent true rest
    else (if atBreak then indent else []) ++ c :: indentLines indent false rest

def doubleQuotes (cs : List Char) : List Char :=
  cs.flatMap fun c ↦ if c == '\'' then ['\'', '\''] else [c]

/-- The closing quote counts as a part of the text, which is how it comes to be indented. -/
def singleText (indent cs : List Char) : List Char :=
  '\'' :: indentLines indent false (doubleQuotes cs ++ ['\''])

/-- What a block says about its text: how far it is indented, if that cannot be seen from its first
line, and what becomes of the breaks at its end. -/
def literalHints (cs : List Char) : List Char :=
  let indentation := if cs.head?.any isEdge then ['2'] else []
  let chomping := match cs.reverse with
    | [c] => if isBreak c then ['+'] else ['-']
    | c :: d :: _ => if !isBreak c then ['-'] else if isBreak d then ['+'] else []
    | [] => ['-']
  indentation ++ chomping

def literalText (indent cs : List Char) : List Char :=
  '|' :: literalHints cs ++ '\n' :: indentLines indent true cs

def spaces (n : Nat) : List Char := List.replicate n ' '

/-- A text as a scalar whose further lines are indented by `indent`. -/
def scalarText (asKey : Bool) (indent : Nat) (s : String) : List Char :=
  match styleOf asKey s with
  | .plain => s.toList
  | .single => singleText (spaces indent) s.toList
  | .double => doubleText s.toList
  | .literal => literalText (spaces indent) s.toList

/-- A text with the end of its line, which a block may have brought along. -/
def endLine (cs : List Char) : List Char :=
  if cs.getLast?.any isBreak then cs else cs ++ ['\n']

/-! ### Containers -/

/-- A value behind a mark on a line that starts at a column; `lines` writes it at any column. -/
def inlineText (column : Nat) (lines : Nat → List Char) : List Char :=
  ' ' :: (lines (column + 2)).drop (column + 2)

/-- A key up to its colon; one that cannot stand on a single line is marked. -/
def keyText (column : Nat) (key : Yaml) (lines : Nat → List Char) : List Char :=
  let marked := spaces column ++ '?' :: inlineText column lines ++ spaces column ++ [':']
  match key with
  | .string s =>
    if isSimpleKey s then spaces column ++ scalarText true column s ++ [':'] else marked
  | _ => marked

/-- What stands behind the colon of an entry. -/
def valueText (column : Nat) (value : Yaml) (lines : Nat → List Char) : List Char :=
  match value with
  | .mapping (_ :: _) => '\n' :: lines (column + 2)
  | .sequence (_ :: _) => '\n' :: lines column
  | _ => inlineText column lines

mutual

/-- A value on lines of its own that start at a column. -/
def blockLines : Yaml → (column : Nat) → List Char
  | .mapping [], column => spaces column ++ "\x7b\x7d\n".toList
  | .sequence [], column => spaces column ++ "[]\n".toList
  | .mapping entries, column => entryLines entries column
  | .sequence items, column => itemLines items column
  | .string s, column => spaces column ++ endLine (scalarText false column s)
  | .number n, column => spaces column ++ n.text.toList ++ ['\n']
  | .bool b, column => spaces column ++ (toString b).toList ++ ['\n']
  | .null, column => spaces column ++ "null\n".toList
  | .tagged tag value, column =>
    spaces column ++ '!' :: tag.toList ++
      match value with
      | .mapping (_ :: _) | .sequence (_ :: _) => '\n' :: blockLines value column
      | _ => ' ' :: (blockLines value column).drop column

def entryLines : List (Yaml × Yaml) → (column : Nat) → List Char
  | [], _ => []
  | (key, value) :: rest, column =>
    keyText column key (fun c ↦ blockLines key c) ++
      valueText column value (fun c ↦ blockLines value c) ++ entryLines rest column

def itemLines : List Yaml → (column : Nat) → List Char
  | [], _ => []
  | item :: rest, column =>
    spaces column ++ '-' :: inlineText column (fun c ↦ blockLines item c) ++
      itemLines rest column

end

/-- The text of a document. -/
def write (v : Yaml) : String := String.ofList (blockLines v 0)

end ClusterPlan.Yaml
