import ClusterPlan.Yaml.Cursor
import ClusterPlan.Yaml.Resolve

/-!
# Styles of scalars

How a text is written so that it is read back as the same text. A text with line feeds asks for a
block, one that would be read as something else for single quotes, and any other for no quotes. What
is asked for gives way where the characters of the text do not allow it, in the end to double
quotes, in which every text can be written.
-/

namespace ClusterPlan.Yaml

inductive ScalarStyle where
  | plain
  | single
  | double
  | literal
  deriving Repr, DecidableEq

/-- Characters that stand for themselves in every style. -/
def isShown (c : Char) : Bool :=
  let n := c.toNat
  n == 0x0A || (0x20 ≤ n && n ≤ 0x7E) || (0xA0 ≤ n && n ≤ 0xD7FF) ||
    (0xE000 ≤ n && n ≤ 0xFFFD && n != 0xFEFF) || 0x10000 ≤ n

/-- A blank, a line break or the zero character. -/
def isGap (c : Char) : Bool := isSpace c || isBreak c || c == '\x00'

/-- Characters with a meaning of their own at the front of a scalar. -/
def isIndicator (c : Char) : Bool := "#,[]\x7b\x7d&*!|>'\"%@`".toList.contains c

def startsWithMarker (cs : List Char) : Bool :=
  "---".toList.isPrefixOf cs || "...".toList.isPrefixOf cs

/-- Whether a text ends here or goes on with a gap. -/
def gapFollows : List Char → Bool
  | [] => true
  | c :: _ => isGap c

/-- Whether a text starts like something that is no plain scalar. -/
def startsWithIndicator : List Char → Bool
  | [] => false
  | c :: rest =>
    isIndicator c || ((c == '?' || c == ':' || c == '-') && gapFollows rest)

/-- Whether a colon stands before a gap, or a number sign behind one. -/
def hasInnerIndicator : Char → List Char → Bool
  | _, [] => false
  | before, c :: rest =>
    (c == ':' && gapFollows rest) || (c == '#' && isGap before) || hasInnerIndicator c rest

/-- Whether two neighbours of a text have the given properties. -/
def hasNeighbours (p q : Char → Bool) : List Char → Bool
  | a :: b :: rest => (p a && q b) || hasNeighbours p q (b :: rest)
  | _ => false

/-- A space or a line break. -/
def isEdge (c : Char) : Bool := c == ' ' || isBreak c

def allowsPlain (cs : List Char) : Bool :=
  cs.all isShown && !cs.any isBreak && !(cs.head?.any isEdge) && !(cs.getLast?.any isEdge) &&
    !startsWithMarker cs && !startsWithIndicator cs &&
    !hasInnerIndicator (cs.headD ' ') (cs.drop 1)

def allowsSingle (cs : List Char) : Bool :=
  cs.all isShown && !hasNeighbours isBreak (· == ' ') cs && !hasNeighbours (· == ' ') isBreak cs

def allowsLiteral (cs : List Char) : Bool :=
  !cs.isEmpty && cs.all isShown && !hasNeighbours (· == ' ') isBreak cs &&
    cs.getLast? != some ' '

/-- Whether a text without quotes would be read back as a text. -/
def readsAsText (s : String) : Bool :=
  !hasLeadingZero s.toList &&
    match resolve? s with
    | some (.string _) => true
    | _ => false

/-- The style that a text asks for. -/
def wantedStyle (s : String) : ScalarStyle :=
  if s.toList.contains '\n' then .literal else if readsAsText s then .plain else .single

/-- The style of a text; `asKey` for one that stands before a colon on its line. -/
def styleOf (asKey : Bool) (s : String) : ScalarStyle :=
  let cs := s.toList
  let quoted : ScalarStyle := if allowsSingle cs then .single else .double
  if asKey && cs.any isBreak then .double
  else match wantedStyle s with
    | .plain => if allowsPlain cs then .plain else quoted
    | .literal => if asKey || !allowsLiteral cs then .double else .literal
    | _ => quoted

/-- The longest text, in bytes, that can stand before a colon on its line. -/
def keyLimit : Nat := 128

/-- Whether a text can be written as a key on one line. -/
def isSimpleKey (s : String) : Bool :=
  !s.toList.any isBreak && s.utf8ByteSize ≤ keyLimit

end ClusterPlan.Yaml
