import ClusterPlan.Decimal.Reader
import ClusterPlan.Yaml.Cursor

/-!
# Texts of scalars

Scalars without quotes, in single or double quotes, and the literal and folded blocks. Between the
words of the first three, a single line break reads as a blank, and of several the first is dropped.
-/

namespace ClusterPlan.Yaml

/-- What lies between two words: blanks within a line, or line breaks. -/
structure Gap where
  blanks : List Char
  broken : Bool
  first : List Char
  more : List Char

namespace Gap

def none : Gap := ⟨[], false, [], []⟩

/-- After a line break that was escaped, and so adds nothing itself. -/
def escaped : Gap := ⟨[], true, [], []⟩

def text (g : Gap) : List Char :=
  if !g.broken then g.blanks
  else if g.first == ['\n'] then
    if g.more.isEmpty then [' '] else g.more
  else g.first ++ g.more

/-- Read on over blanks and breaks. Before column `margin`, a tab after a break is a fault. -/
def take (margin : Int) : Nat → Gap → Cursor → Option (Gap × Cursor)
  | 0, g, c => some (g, c)
  | fuel + 1, g, c =>
    match c.newline? with
    | some (text, next) =>
      if g.broken then take margin fuel { g with more := g.more ++ text } next
      else take margin fuel ⟨[], true, text, g.more⟩ next
    | .none =>
      match c.rest with
      | x :: _ =>
        if !isSpace x then some (g, c)
        else if g.broken then
          if x == '\t' && (c.column : Int) < margin then .none
          else take margin fuel g (c.skip 1)
        else take margin fuel { g with blanks := g.blanks ++ [x] } (c.skip 1)
      | [] => some (g, c)

end Gap

/-! ### Without quotes -/

def isFlowMark (c : Char) : Bool := c == ',' || c == '[' || c == ']' || c == '\x7b' || c == '\x7d'

/-- The characters up to the next gap or mark. Within brackets, a colon in front of a mark is a
fault. -/
def takePlainWord (flow : Bool) : List Char → Option (List Char)
  | [] => some []
  | c :: rest =>
    if atGap (c :: rest) then some []
    else if flow && c == ':' && rest.head?.any (fun d ↦ d == '?' || isFlowMark d) then none
    else if c == ':' && atGap rest then some []
    else if flow && isFlowMark c then some []
    else (takePlainWord flow rest).map (c :: ·)

/-- A scalar without quotes from its first word on. The result says whether a line break was read
behind its last word. -/
def takePlain (flow : Bool) (margin : Int) :
    Nat → List Char → Gap → Cursor → Option (List Char × Bool × Cursor)
  | 0, text, g, c => some (text, g.broken, c)
  | fuel + 1, text, g, c =>
    if c.atDocumentMark || c.rest.head? == some '#' then some (text, g.broken, c)
    else match takePlainWord flow c.rest with
      | none => none
      | some [] => some (text, g.broken, c)
      | some word =>
        let text := text ++ g.text ++ word
        let c := c.skip word.length
        if c.rest.isEmpty || !atGap c.rest then some (text, false, c)
        else match Gap.take margin (c.rest.length + 1) .none c with
          | none => none
          | some (g, c) =>
            if !flow && (c.column : Int) < margin then some (text, g.broken, c)
            else takePlain flow margin fuel text g c

/-! ### In quotes -/

/-- The character that an escape of one letter stands for. -/
def escapeLetter? (c : Char) : Option Char :=
  match c with
  | '0' => some '\x00'
  | 'a' => some '\x07'
  | 'b' => some '\x08'
  | 't' => some '\t'
  | '\t' => some '\t'
  | 'n' => some '\n'
  | 'v' => some '\x0b'
  | 'f' => some '\x0c'
  | 'r' => some '\r'
  | 'e' => some '\x1b'
  | ' ' => some ' '
  | '"' => some '"'
  | '/' => some '/'
  | '\\' => some '\\'
  | 'N' => some (Char.ofNat 0x85)
  | '_' => some (Char.ofNat 0xA0)
  | 'L' => some (Char.ofNat 0x2028)
  | 'P' => some (Char.ofNat 0x2029)
  | _ => none

/-- How many digits follow the letter of a numeric escape. -/
def escapeWidth? (c : Char) : Option Nat :=
  match c with
  | 'x' => some 2
  | 'u' => some 4
  | 'U' => some 8
  | _ => none

def charOfCode? (n : Nat) : Option Char :=
  if n.isValidChar then some (Char.ofNat n) else none

/-- The escape whose backslash has been passed, and its length. -/
def takeEscape (cs : List Char) : Option (Char × Nat) :=
  match cs with
  | [] => none
  | c :: rest =>
    match escapeWidth? c with
    | some width =>
      let digits := rest.take width
      if digits.length < width then none
      else ((Decimal.readInBase? 16 digits).bind charOfCode?).map (·, width + 1)
    | none => (escapeLetter? c).map (·, 1)

/-- Characters up to a gap or the closing quote, and whether they end in an escaped line break. -/
def takeQuotedWord (single : Bool) :
    Nat → List Char → Cursor → Option (List Char × Bool × Cursor)
  | 0, text, c => some (text, false, c)
  | fuel + 1, text, c =>
    if atGap c.rest then some (text, false, c)
    else match single, c.rest with
      | true, '\'' :: '\'' :: _ => takeQuotedWord single fuel (text ++ ['\'']) (c.skip 2)
      | true, '\'' :: _ => some (text, false, c)
      | false, '"' :: _ => some (text, false, c)
      | false, '\\' :: rest =>
        if rest.head?.any isBreak then some (text, true, (c.skip 1).skipNewline)
        else match takeEscape rest with
          | none => none
          | some (x, width) => takeQuotedWord single fuel (text ++ [x]) (c.skip (width + 1))
      | _, x :: _ => takeQuotedWord single fuel (text ++ [x]) (c.skip 1)
      | _, [] => some (text, false, c)

/-- The rest of a quoted scalar up to and with its closing quote. -/
def takeQuoted (single : Bool) : Nat → List Char → Cursor → Option (List Char × Cursor)
  | 0, _, _ => none
  | fuel + 1, text, c =>
    if c.atDocumentMark || c.rest.isEmpty then none
    else match takeQuotedWord single (c.rest.length + 1) [] c with
      | none => none
      | some (word, escaped, c) =>
        let text := text ++ word
        if c.rest.head? == some (if single then '\'' else '"') then some (text, c.skip 1)
        else match Gap.take 0 (c.rest.length + 1) (if escaped then .escaped else .none) c with
          | none => none
          | some (g, c) => takeQuoted single fuel (text ++ g.text) c

/-! ### Blocks -/

/-- What is kept of the line breaks at the end of a block. -/
inductive Chomping where
  | strip
  | clip
  | keep
  deriving Repr, DecidableEq

structure BlockHeader where
  chomping : Chomping
  /-- The indentation of the block, counted from that around it, where it is given. -/
  indentation : Option Nat

def chompingOf? (c : Char) : Option Chomping :=
  if c == '+' then some .keep else if c == '-' then some .strip else none

def indentationOf? (c : Char) : Option Nat :=
  if c.isDigit && c != '0' then some (Decimal.digitValue c) else none

/-- The header behind the mark of a block, and the rest of its line. -/
def takeBlockHeader (c : Cursor) : Option (BlockHeader × Cursor) :=
  let finish (h : BlockHeader) (c : Cursor) : Option (BlockHeader × Cursor) :=
    let c := (c.skipWhile isSpace).skipComment
    if c.rest.isEmpty then some (h, c) else c.newline?.map fun (_, next) ↦ (h, next)
  match c.rest with
  | x :: y :: _ =>
    match chompingOf? x, indentationOf? x with
    | some chomping, _ =>
      if y == '0' then none
      else match indentationOf? y with
        | some n => finish ⟨chomping, some n⟩ (c.skip 2)
        | none => finish ⟨chomping, none⟩ (c.skip 1)
    | none, some n =>
      match chompingOf? y with
      | some chomping => finish ⟨chomping, some n⟩ (c.skip 2)
      | none => finish ⟨.clip, some n⟩ (c.skip 1)
    | none, none => if x == '0' then none else finish ⟨.clip, none⟩ c
  | [x] =>
    match chompingOf? x, indentationOf? x with
    | some chomping, _ => finish ⟨chomping, none⟩ (c.skip 1)
    | none, some n => finish ⟨.clip, some n⟩ (c.skip 1)
    | none, none => if x == '0' then none else finish ⟨.clip, none⟩ c
  | [] => finish ⟨.clip, none⟩ c

/-- Empty lines in front of the next line of a block: their breaks, and the deepest column met.
Without a known indentation all blanks in front of a line are passed over. -/
def takeEmptyLines (indent : Option Nat) :
    Nat → List Char → Nat → Cursor → Option (List Char × Nat × Cursor)
  | 0, breaks, deepest, c => some (breaks, deepest, c)
  | fuel + 1, breaks, deepest, c =>
    let blanks := (c.rest.takeWhile (· == ' ')).length
    let c := c.skip (match indent with
      | none => blanks
      | some n => min blanks (n - c.column))
    let deepest := max deepest c.column
    let inside := indent.all fun n ↦ c.column < n
    if inside && c.rest.head? == some '\t' then none
    else match c.newline? with
      | some (text, next) => takeEmptyLines indent fuel (breaks ++ text) deepest next
      | none => some (breaks, deepest, c)

/-- What a block has read so far: its text, the break behind its last line, the breaks of the empty
lines after that, and whether its last line began with a blank. -/
structure BlockText where
  text : List Char
  lineBreak : List Char
  emptyLines : List Char
  blankStart : Bool

/-- The break between two lines of a folded block joins them, unless one of them begins with a
blank. -/
def BlockText.joined (literal : Bool) (b : BlockText) (blankStart : Bool) : List Char :=
  if !literal && b.lineBreak == ['\n'] && !b.blankStart && !blankStart then
    (if b.emptyLines.isEmpty then [' '] else []) ++ b.emptyLines
  else b.lineBreak ++ b.emptyLines

def takeBlockLines (literal : Bool) (indent : Nat) :
    Nat → BlockText → Cursor → Option (BlockText × Cursor)
  | 0, b, c => some (b, c)
  | fuel + 1, b, c =>
    if c.column != indent || c.rest.isEmpty then some (b, c)
    else
      let blankStart := c.rest.head?.any isSpace
      let (line, c) := c.span fun x ↦ !isBreak x
      let text := b.text ++ b.joined literal blankStart ++ line
      let (lineBreak, c) := (c.newline?).getD ([], c)
      match takeEmptyLines (some indent) (c.rest.length + 1) [] 0 c with
      | none => none
      | some (emptyLines, _, c) =>
        takeBlockLines literal indent fuel ⟨text, lineBreak, emptyLines, blankStart⟩ c

/-- A block behind its mark, within lines of indentation `outer`. -/
def takeBlock (literal : Bool) (outer : Int) (c : Cursor) : Option (List Char × Cursor) := do
  let (header, c) ← takeBlockHeader c
  let given := header.indentation.map fun n ↦ (max 0 outer).toNat + n
  let (emptyLines, deepest, c) ← takeEmptyLines given (c.rest.length + 1) [] 0 c
  let indent := given.getD (max deepest (max 1 (outer + 1).toNat))
  let (b, c) ← takeBlockLines literal indent (c.rest.length + 1) ⟨[], [], emptyLines, false⟩ c
  let tail := match header.chomping with
    | .strip => []
    | .clip => b.lineBreak
    | .keep => b.lineBreak ++ b.emptyLines
  return (b.text ++ tail, c)

end ClusterPlan.Yaml
