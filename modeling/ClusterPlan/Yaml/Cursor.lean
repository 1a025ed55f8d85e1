/-!
# Places in a document text

The characters still to be read, with their line and column. A line break is read as a whole: the
two characters that some texts end a line with count as one break.
-/

namespace ClusterPlan.Yaml

def isBreak (c : Char) : Bool :=
  c == '\n' || c == '\r' || c.toNat == 0x85 || c.toNat == 0x2028 || c.toNat == 0x2029

/-- A blank within a line. -/
def isSpace (c : Char) : Bool := c == ' ' || c == '\t'

/-- Whether a text is at its end, at a blank or at a line break. -/
def atGap (cs : List Char) : Bool :=
  match cs with
  | [] => true
  | c :: _ => isSpace c || isBreak c

/-- Letters, digits, the underscore and the dash. -/
def isWordChar (c : Char) : Bool := c.isAlphanum || c == '_' || c == '-'

structure Cursor where
  rest : List Char
  index : Nat
  line : Nat
  column : Nat

namespace Cursor

def start (cs : List Char) : Cursor := ⟨cs, 0, 0, 0⟩

/-- Pass over characters of one line. -/
def skip (c : Cursor) (n : Nat) : Cursor := ⟨c.rest.drop n, c.index + n, c.line, c.column + n⟩

def span (p : Char → Bool) (c : Cursor) : List Char × Cursor :=
  let taken := c.rest.takeWhile p
  (taken, c.skip taken.length)

def skipWhile (p : Char → Bool) (c : Cursor) : Cursor := (c.span p).2

/-- The break at the front, as it enters a text, and the place behind it. -/
def newline? (c : Cursor) : Option (List Char × Cursor) :=
  match c.rest with
  | '\r' :: '\n' :: rest => some (['\n'], ⟨rest, c.index + 2, c.line + 1, 0⟩)
  | b :: rest =>
    if isBreak b then
      let text := if b.toNat == 0x2028 || b.toNat == 0x2029 then [b] else ['\n']
      some (text, ⟨rest, c.index + 1, c.line + 1, 0⟩)
    else none
  | [] => none

/-- Pass over a break if there is one. -/
def skipNewline (c : Cursor) : Cursor :=
  match c.newline? with
  | some (_, next) => next
  | none => c

/-- Whether one of the two marks between documents stands here. -/
def atDocumentMark (c : Cursor) : Bool :=
  c.column == 0 && match c.rest with
    | '-' :: '-' :: '-' :: rest => atGap rest
    | '.' :: '.' :: '.' :: rest => atGap rest
    | _ => false

/-- Pass over a comment, if one starts here, up to the end of its line. -/
def skipComment (c : Cursor) : Cursor :=
  match c.rest with
  | '#' :: _ => c.skipWhile fun x ↦ !isBreak x
  | _ => c

end Cursor

end ClusterPlan.Yaml
