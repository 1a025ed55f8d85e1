import ClusterPlan.Yaml.ScalarText

/-!
# Tokens of a document text

A text is cut into tokens that make its structure explicit: deeper indentation opens a block
sequence or mapping, and a return to an outer column closes it. That a node is a key shows only at
the colon behind it, so the place of every node that may turn out to be one is remembered; such a
node must lie on one line and be at most 1024 characters long.
-/

namespace ClusterPlan.Yaml

inductive Token where
  | version (major minor : Nat)
  | tagDirective (handle stem : String)
  | documentStart
  | documentEnd
  | blockSequenceStart
  | blockMappingStart
  | blockEnd
  | flowSequenceStart
  | flowSequenceEnd
  | flowMappingStart
  | flowMappingEnd
  | blockEntry
  | flowEntry
  | key
  | value
  | alias (name : String)
  | anchor (name : String)
  | tag (handle name : String)
  | scalar (text : String) (plain : Bool)
  deriving Repr, DecidableEq

/-! ### Names, tags and directives -/

/-- The name of an anchor or alias, which must end at a gap or at certain marks. -/
def takeAnchorName (c : Cursor) : Option (String × Cursor) :=
  let (name, c) := c.span isWordChar
  let closed := atGap c.rest || c.rest.head?.any ("?:,]\x7d%@\x60".toList.contains ·)
  if name.isEmpty || !closed then none else some (String.ofList name, c)

def isUriChar (verbatim : Bool) (c : Char) : Bool :=
  isWordChar c || ";/?:@&=+$.!~*'()".toList.contains c ||
    (verbatim && (c == ',' || c == '[' || c == ']'))

/-- How many bytes the first byte of an encoded character announces. -/
def encodedLength? (byte : Nat) : Option Nat :=
  if byte < 0x80 then some 1
  else if 0xC0 ≤ byte && byte < 0xE0 then some 2
  else if 0xE0 ≤ byte && byte < 0xF0 then some 3
  else if 0xF0 ≤ byte && byte < 0xF8 then some 4
  else none

def takeByteEscapes : Nat → List Char → Option (List UInt8 × List Char)
  | 0, cs => some ([], cs)
  | n + 1, '%' :: a :: b :: rest => do
    let byte ← Decimal.readInBase? 16 [a, b]
    let (bytes, rest) ← takeByteEscapes n rest
    return (UInt8.ofNat byte :: bytes, rest)
  | _, _ => none

/-- A character written byte by byte. -/
def takeEncoded (cs : List Char) : Option (List Char × List Char) :=
  match cs with
  | '%' :: a :: b :: _ => do
    let first ← Decimal.readInBase? 16 [a, b]
    let length ← encodedLength? first
    let (bytes, rest) ← takeByteEscapes length cs
    let s ← String.fromUTF8? ⟨bytes.toArray⟩
    return (s.toList, rest)
  | _ => none

/-- Characters of a tag, those written byte by byte included, with the number of characters read. -/
def takeUri (verbatim : Bool) : Nat → List Char → Option (List Char × Nat)
  | 0, _ => some ([], 0)
  | fuel + 1, cs =>
    match cs with
    | '%' :: _ => do
      let (text, rest) ← takeEncoded cs
      let (more, n) ← takeUri verbatim fuel rest
      return (text ++ more, n + (cs.length - rest.length))
    | c :: rest =>
      if isUriChar verbatim c then do
        let (more, n) ← takeUri verbatim fuel rest
        return (c :: more, n + 1)
      else some ([], 0)
    | [] => some ([], 0)

def takeUriAt (verbatim : Bool) (c : Cursor) : Option (List Char × Cursor) := do
  let (text, n) ← takeUri verbatim (c.rest.length + 1) c.rest
  return (text, c.skip n)

/-- The handle at the front: an exclamation mark, perhaps with a name and another one. -/
def takeHandle (c : Cursor) : Option (List Char × Cursor) :=
  match c.rest with
  | '!' :: _ =>
    let (name, c) := (c.skip 1).span isWordChar
    match c.rest with
    | '!' :: _ => some ('!' :: name ++ ['!'], c.skip 1)
    | _ => some ('!' :: name, c)
  | _ => none

/-- A tag in angle brackets, under a handle, or of the document's own. The exclamation mark alone
has no handle. -/
def takeTag (flow : Bool) (c : Cursor) : Option (Token × Cursor) := do
  let (token, c) ← match c.rest with
    | '!' :: '<' :: _ => do
      let (uri, c) ← takeUriAt true (c.skip 2)
      if uri.isEmpty || c.rest.head? != some '>' then none
      else some (Token.tag "" (String.ofList uri), c.skip 1)
    | _ => do
      let (handle, c) ← takeHandle c
      let (uri, c) ← takeUriAt false c
      if 1 < handle.length && handle.getLast? == some '!' then
        if uri.isEmpty then none
        else some (Token.tag (String.ofList handle) (String.ofList uri), c)
      else
        let name := handle.drop 1 ++ uri
        if name.isEmpty then some (Token.tag "" "!", c)
        else some (Token.tag "!" (String.ofList name), c)
  if atGap c.rest || (flow && c.rest.head? == some ',') then some (token, c) else none

/-- A number of a version, of at most nine digits. -/
def takeVersionNumber (c : Cursor) : Option (Nat × Cursor) :=
  let (digits, c) := c.span Char.isDigit
  if digits.isEmpty || 9 < digits.length then none else some (Decimal.ofDigits digits, c)

/-- What stands behind the name of a directive. -/
def takeDirectiveValue (name : String) (c : Cursor) : Option (Token × Cursor) :=
  if name = "YAML" then do
    let (major, c) ← takeVersionNumber (c.skipWhile isSpace)
    if c.rest.head? != some '.' then none
    else
      let (minor, c) ← takeVersionNumber (c.skip 1)
      return (.version major minor, c)
  else if name = "TAG" then do
    let (handle, c) ← takeHandle (c.skipWhile isSpace)
    if handle != ['!'] && handle.getLast? != some '!' then none
    else if !c.rest.head?.any isSpace then none
    else
      let (stem, c) ← takeUriAt true (c.skipWhile isSpace)
      if stem.isEmpty || !atGap c.rest then none
      else return (.tagDirective (String.ofList handle) (String.ofList stem), c)
  else none

def takeDirective (c : Cursor) : Option (Token × Cursor) := do
  let (name, c) := (c.skip 1).span isWordChar
  if name.isEmpty || !atGap c.rest then none
  else
    let (token, c) ← takeDirectiveValue (String.ofList name) c
    let c := (c.skipWhile isSpace).skipComment
    if c.rest.isEmpty then return (token, c)
    else
      let (_, c) ← c.newline?
      return (token, c)

/-! ### Scanning -/

/-- The place of a node that may be a key. One that begins a line of a block mapping must be. -/
structure PendingKey where
  place : Nat
  required : Bool
  index : Nat
  line : Nat
  column : Nat

/-- The tokens so far, the last one first, and what the next one depends on. `pending` holds the
possible key of every open bracket, and that of the block around them last. -/
structure Scan where
  cursor : Cursor
  tokens : List Token
  count : Nat
  pending : List (Option PendingKey)
  keyAllowed : Bool
  indent : Int
  outerIndents : List Int

namespace Scan

def start (cs : List Char) : Scan := ⟨Cursor.start cs, [], 0, [none], true, -1, []⟩

def inFlow (s : Scan) : Bool := 1 < s.pending.length

def push (s : Scan) (t : Token) : Scan := { s with tokens := t :: s.tokens, count := s.count + 1 }

/-- Insert a token at a place counted from the first. -/
def insertAt (s : Scan) (place : Nat) (t : Token) : Scan :=
  let later := s.count - place
  { s with tokens := s.tokens.take later ++ t :: s.tokens.drop later, count := s.count + 1 }

def setPending (s : Scan) (key : Option PendingKey) : Scan :=
  { s with pending := key :: s.pending.drop 1 }

/-- Give up the innermost possible key. -/
def dropPending (s : Scan) : Option Scan :=
  match s.pending with
  | some key :: _ => if key.required then none else some (s.setPending none)
  | _ => some s

/-- The node that starts here may be a key. -/
def notePending (s : Scan) : Option Scan :=
  if !s.keyAllowed then some s
  else do
    let required := !s.inFlow && s.indent == s.cursor.column
    let s ← s.dropPending
    let c := s.cursor
    return s.setPending (some ⟨s.count, required, c.index, c.line, c.column⟩)

/-- Whether a possible key has become too long. -/
def isStale (c : Cursor) (key : PendingKey) : Bool :=
  key.line < c.line || key.index + 1024 < c.index

def dropStale (s : Scan) : Option Scan :=
  if s.pending.any fun key ↦ key.any fun k ↦ k.required && isStale s.cursor k then none
  else some { s with
    pending := s.pending.map fun key ↦ key.filter fun k ↦ !isStale s.cursor k }

/-- Close the blocks that are indented deeper than a column. -/
def unroll (column : Int) : List Int → Scan → Scan
  | [], s => s
  | outer :: rest, s =>
    if column < s.indent then
      unroll column rest { s.push .blockEnd with indent := outer, outerIndents := rest }
    else s

def closeBlocks (s : Scan) (column : Int) : Scan :=
  if s.inFlow then s else unroll column s.outerIndents s

/-- Open a block at a column that is deeper than the current one. -/
def openBlock (s : Scan) (column : Nat) (place : Option Nat) (t : Token) : Scan :=
  if s.inFlow || (column : Int) ≤ s.indent then s
  else
    let s := { s with indent := column, outerIndents := s.indent :: s.outerIndents }
    match place with
    | some place => s.insertAt place t
    | none => s.push t

/-- Pass over blanks, comments and line breaks. A tab may not stand where a key may. -/
def skipGap : Nat → Scan → Scan
  | 0, s => s
  | fuel + 1, s =>
    let tabs := s.inFlow || !s.keyAllowed
    let c := (s.cursor.skipWhile fun x ↦ x == ' ' || (tabs && x == '\t')).skipComment
    match c.newline? with
    | some (_, next) =>
      skipGap fuel { s with cursor := next, keyAllowed := s.keyAllowed || !s.inFlow }
    | none => { s with cursor := c }

/-- Pass over `n` characters that are the token `t`. -/
def pushMark (s : Scan) (n : Nat) (t : Token) : Scan :=
  { s.push t with cursor := s.cursor.skip n }

def allowKey (s : Scan) (allowed : Bool) : Scan := { s with keyAllowed := allowed }

def atDocumentLevel (s : Scan) : Option Scan := do
  let s ← (s.closeBlocks (-1)).dropPending
  return s.allowKey false

def takeOpening (s : Scan) (t : Token) : Option Scan := do
  let s ← s.notePending
  return (({ s with pending := none :: s.pending }).allowKey true).pushMark 1 t

def takeClosing (s : Scan) (t : Token) : Option Scan := do
  let s ← s.dropPending
  let pending := if s.inFlow then s.pending.drop 1 else s.pending
  return (({ s with pending := pending }).allowKey false).pushMark 1 t

def takeEntry (s : Scan) : Option Scan :=
  if s.inFlow then do
    let s ← s.dropPending
    return (s.allowKey true).pushMark 1 .blockEntry
  else if !s.keyAllowed then none
  else do
    let s ← (s.openBlock s.cursor.column none .blockSequenceStart).dropPending
    return (s.allowKey true).pushMark 1 .blockEntry

def takeKeyMark (s : Scan) : Option Scan :=
  if !s.inFlow && !s.keyAllowed then none
  else do
    let s ← (s.openBlock s.cursor.column none .blockMappingStart).dropPending
    return (s.allowKey (!s.inFlow)).pushMark 1 .key

/-- A colon makes a key of the node before it, if that may be one. -/
def takeValueMark (s : Scan) : Option Scan :=
  match s.pending.head? with
  | some (some key) =>
    let s := (s.setPending none).insertAt key.place .key
    let s := s.openBlock key.column (some key.place) .blockMappingStart
    some ((s.allowKey false).pushMark 1 .value)
  | _ =>
    if s.inFlow then some ((s.allowKey false).pushMark 1 .value)
    else if !s.keyAllowed then none
    else
      let s := s.openBlock s.cursor.column none .blockMappingStart
      some ((s.allowKey true).pushMark 1 .value)

def takeName (s : Scan) (t : String → Token) : Option Scan := do
  let s ← s.notePending
  let (name, c) ← takeAnchorName (s.cursor.skip 1)
  return { (s.allowKey false).push (t name) with cursor := c }

def takeTagged (s : Scan) : Option Scan := do
  let s ← s.notePending
  let (token, c) ← takeTag s.inFlow s.cursor
  return { (s.allowKey false).push token with cursor := c }

def takeBlockScalar (s : Scan) (literal : Bool) : Option Scan := do
  let s ← s.dropPending
  let (text, c) ← takeBlock literal s.indent (s.cursor.skip 1)
  return { (s.allowKey true).push (.scalar (String.ofList text) false) with cursor := c }

def takeQuotedScalar (s : Scan) (single : Bool) : Option Scan := do
  let s ← s.notePending
  let (text, c) ← takeQuoted single (s.cursor.rest.length + 1) [] (s.cursor.skip 1)
  return { (s.allowKey false).push (.scalar (String.ofList text) false) with cursor := c }

/-- Behind a line break, a scalar without quotes may be followed by a key. -/
def takePlainScalar (s : Scan) : Option Scan := do
  let s ← s.notePending
  let (text, broken, c) ←
    takePlain s.inFlow (s.indent + 1) (s.cursor.rest.length + 1) [] .none s.cursor
  return { (s.allowKey broken).push (.scalar (String.ofList text) true) with cursor := c }

/-- Characters that mean something at the start of a node. -/
def isMark (c : Char) : Bool := "-?:,[]\x7b\x7d#&*!|>'\"%@\x60".toList.contains c

/-- Whether a scalar without quotes starts here. -/
def startsPlain (flow : Bool) (cs : List Char) : Bool :=
  match cs with
  | [] => false
  | c :: rest =>
    (!atGap cs && !isMark c) || (c == '-' && !rest.head?.any isSpace) ||
      (!flow && (c == '?' || c == ':') && !atGap rest)

/-- The next token; `s` stands at its first character. -/
def takeToken (s : Scan) : Option Scan :=
  let c := s.cursor
  let flow := s.inFlow
  match c.rest with
  | [] => none
  | x :: rest =>
    if c.column == 0 && x == '%' then do
      let s ← s.atDocumentLevel
      let (token, c) ← takeDirective s.cursor
      return { s.push token with cursor := c }
    else if c.atDocumentMark then do
      let s ← s.atDocumentLevel
      return s.pushMark 3 (if x == '-' then .documentStart else .documentEnd)
    else if x == '[' then s.takeOpening .flowSequenceStart
    else if x == '\x7b' then s.takeOpening .flowMappingStart
    else if x == ']' then s.takeClosing .flowSequenceEnd
    else if x == '\x7d' then s.takeClosing .flowMappingEnd
    else if x == ',' then do
      let s ← s.dropPending
      return (s.allowKey true).pushMark 1 .flowEntry
    else if x == '-' && atGap rest then s.takeEntry
    else if x == '?' && (flow || atGap rest) then s.takeKeyMark
    else if x == ':' && (flow || atGap rest) then s.takeValueMark
    else if x == '*' then s.takeName .alias
    else if x == '&' then s.takeName .anchor
    else if x == '!' then s.takeTagged
    else if x == '|' && !flow then s.takeBlockScalar true
    else if x == '>' && !flow then s.takeBlockScalar false
    else if x == '\'' then s.takeQuotedScalar true
    else if x == '"' then s.takeQuotedScalar false
    else if startsPlain flow c.rest then s.takePlainScalar
    else none

/-- All tokens up to the end of the text. -/
def finish : Nat → Scan → Option (List Token)
  | 0, _ => none
  | fuel + 1, s => do
    let s ← (skipGap (s.cursor.rest.length + 1) s).dropStale
    let s := s.closeBlocks s.cursor.column
    if s.cursor.rest.isEmpty then
      let s ← (s.closeBlocks (-1)).dropPending
      return s.tokens.reverse
    else
      let s ← s.takeToken
      finish fuel s

end Scan

/-- Characters that a document text may hold. -/
def isDocumentChar (c : Char) : Bool :=
  let n := c.toNat
  n == 0x09 || n == 0x0A || n == 0x0D || (0x20 ≤ n && n ≤ 0x7E) || n == 0x85 ||
    (0xA0 ≤ n && n ≤ 0xFFFD) || 0x10000 ≤ n

/-- The text behind a byte order mark. -/
def dropByteOrderMark (cs : List Char) : List Char :=
  match cs with
  | c :: rest => if c.toNat = 0xFEFF then rest else c :: rest
  | [] => []

def tokens? (text : String) : Option (List Token) :=
  let cs := dropByteOrderMark text.toList
  if cs.all isDocumentChar then Scan.finish (cs.length + 1) (Scan.start cs) else none

end ClusterPlan.Yaml
