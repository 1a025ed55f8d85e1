import ClusterPlan.Decimal.Reader
import ClusterPlan.Toml.Basic

/-!
# Reading TOML

A text is a row of lines, each a pair of a key and a value, a header or nothing. Values that no
setting can take, numbers with a fraction and dates, are read for their form only.
-/

namespace ClusterPlan.Toml

def isBlank (c : Char) : Bool := c == ' ' || c == '\t'

def skipBlanks (cs : List Char) : List Char := cs.dropWhile isBlank

/-- Characters that may stand in a comment or a string. -/
def isTextChar (c : Char) : Bool := c == '\t' || (32 ≤ c.toNat && c.toNat != 127)

def skipComment (cs : List Char) : List Char :=
  match cs with
  | '#' :: rest => rest.dropWhile isTextChar
  | cs => cs

/-- Behind the line break at the front. -/
def takeNewline? : List Char → Option (List Char)
  | '\n' :: rest => some rest
  | '\r' :: '\n' :: rest => some rest
  | _ => none

/-- Behind the rest of a line on which nothing more may stand. -/
def endLine? (cs : List Char) : Option (List Char) :=
  match skipComment (skipBlanks cs) with
  | [] => some []
  | cs => takeNewline? cs

/-- Behind blanks, comments and line breaks. -/
def skipLines : Nat → List Char → List Char
  | 0, cs => cs
  | fuel + 1, cs =>
    let cs := skipComment (skipBlanks cs)
    match takeNewline? cs with
    | some rest => skipLines fuel rest
    | none => cs

/-! ### Strings -/

/-- The code point of so many hexadecimal digits. -/
def takeCode (width : Nat) (cs : List Char) : Option (Char × List Char) :=
  let digits := cs.take width
  if digits.length < width then none
  else match Decimal.readInBase? 16 digits with
    | some n => if n.isValidChar then some (Char.ofNat n, cs.drop width) else none
    | none => none

def takeEscape (cs : List Char) : Option (Char × List Char) :=
  match cs with
  | 'b' :: rest => some ('\x08', rest)
  | 't' :: rest => some ('\t', rest)
  | 'n' :: rest => some ('\n', rest)
  | 'f' :: rest => some ('\x0c', rest)
  | 'r' :: rest => some ('\r', rest)
  | '"' :: rest => some ('"', rest)
  | '\\' :: rest => some ('\\', rest)
  | 'u' :: rest => takeCode 4 rest
  | 'U' :: rest => takeCode 8 rest
  | _ => none

/-- The rest of a string on one line. -/
def takeBasic : Nat → List Char → List Char → Option (String × List Char)
  | 0, _, _ => none
  | fuel + 1, reversed, cs =>
    match cs with
    | '"' :: rest => some (String.ofList reversed.reverse, rest)
    | '\\' :: rest =>
      match takeEscape rest with
      | some (c, rest) => takeBasic fuel (c :: reversed) rest
      | none => none
    | c :: rest => if isTextChar c then takeBasic fuel (c :: reversed) rest else none
    | [] => none

def takeLiteral (cs : List Char) : Option (String × List Char) :=
  let text := cs.takeWhile fun c ↦ isTextChar c && c != '\''
  match cs.drop text.length with
  | '\'' :: rest => some (String.ofList text, rest)
  | _ => none

/-- Behind a line break right after an opening of three quotes. -/
def dropFirstNewline (cs : List Char) : List Char := (takeNewline? cs).getD cs

/-- Three to five quotes close a string of several lines; those before the last three belong to
it. -/
def takeClosing? (quote : Char) (cs : List Char) : Option (List Char × List Char) :=
  let quotes := cs.takeWhile (· == quote)
  if quotes.length < 3 then none
  else
    let count := min quotes.length 5
    some (List.replicate (count - 3) quote, cs.drop count)

/-- Behind the blanks and breaks that an escaped line break takes away. -/
def skipContinuation : Nat → List Char → List Char
  | 0, cs => cs
  | fuel + 1, cs =>
    let cs := skipBlanks cs
    match takeNewline? cs with
    | some rest => skipContinuation fuel rest
    | none => cs

def takeMultiline (quote : Char) : Nat → List Char → List Char → Option (String × List Char)
  | 0, _, _ => none
  | fuel + 1, reversed, cs =>
    match takeClosing? quote cs with
    | some (quotes, rest) => some (String.ofList (reversed.reverse ++ quotes), rest)
    | none =>
      match takeNewline? cs with
      | some rest => takeMultiline quote fuel ('\n' :: reversed) rest
      | none =>
        match cs with
        | '\\' :: rest =>
          if quote == '\'' then takeMultiline quote fuel ('\\' :: reversed) rest
          else match takeNewline? (skipBlanks rest) with
            | some after =>
              takeMultiline quote fuel reversed (skipContinuation (after.length + 1) after)
            | none =>
              match takeEscape rest with
              | some (c, rest) => takeMultiline quote fuel (c :: reversed) rest
              | none => none
        | c :: rest =>
          if isTextChar c then takeMultiline quote fuel (c :: reversed) rest else none
        | [] => none

def takeString (cs : List Char) : Option (String × List Char) :=
  match cs with
  | '"' :: '"' :: '"' :: rest =>
    takeMultiline '"' (rest.length + 1) [] (dropFirstNewline rest)
  | '\'' :: '\'' :: '\'' :: rest =>
    takeMultiline '\'' (rest.length + 1) [] (dropFirstNewline rest)
  | '"' :: rest => takeBasic (rest.length + 1) [] rest
  | '\'' :: rest => takeLiteral rest
  | _ => none

/-! ### Keys -/

def isKeyChar (c : Char) : Bool := c.isAlphanum || c == '_' || c == '-'

def takeSimpleKey (cs : List Char) : Option (String × List Char) :=
  match cs with
  | '"' :: rest => takeBasic (rest.length + 1) [] rest
  | '\'' :: rest => takeLiteral rest
  | cs =>
    let key := cs.takeWhile isKeyChar
    if key.isEmpty then none else some (String.ofList key, cs.drop key.length)

/-- A key of one or more parts with points between them. -/
def takeKey : Nat → List Char → Option (List String × List Char)
  | 0, _ => none
  | fuel + 1, cs =>
    match takeSimpleKey (skipBlanks cs) with
    | none => none
    | some (part, rest) =>
      match skipBlanks rest with
      | '.' :: rest => (takeKey fuel rest).map fun (parts, rest) ↦ (part :: parts, rest)
      | rest => some ([part], rest)

/-! ### Numbers and dates -/

/-- Digits in which single underscores stand between digits only. -/
def digitsOf? (isDigit : Char → Bool) : List Char → Option (List Char)
  | [] => none
  | [c] => if isDigit c then some [c] else none
  | c :: '_' :: rest => if isDigit c then (digitsOf? isDigit rest).map (c :: ·) else none
  | c :: rest => if isDigit c then (digitsOf? isDigit rest).map (c :: ·) else none

def inBase? (base : Nat) (cs : List Char) : Option Nat :=
  (digitsOf? (fun c ↦ (Decimal.digitInBase? base c).isSome) cs).bind (Decimal.readInBase? base)

def decimalDigits? (cs : List Char) : Option (List Char) :=
  (digitsOf? Char.isDigit cs).filter fun digits ↦ digits.length == 1 || digits.head? != some '0'

def unsigned (cs : List Char) : List Char :=
  match cs with
  | '-' :: rest => rest
  | '+' :: rest => rest
  | cs => cs

/-- A whole number of 64 bits. -/
def intOf? (cs : List Char) : Option Int :=
  let value : Option Int := match cs with
    | '0' :: 'x' :: rest => (inBase? 16 rest).map fun n ↦ (n : Int)
    | '0' :: 'o' :: rest => (inBase? 8 rest).map fun n ↦ (n : Int)
    | '0' :: 'b' :: rest => (inBase? 2 rest).map fun n ↦ (n : Int)
    | cs => (decimalDigits? (unsigned cs)).map fun digits ↦
        let n : Int := Decimal.ofDigits digits
        if cs.head? == some '-' then -n else n
  value.filter fun n ↦ -(Nat.pow 2 63 : Int) ≤ n && n < Nat.pow 2 63

def isExponentMark (c : Char) : Bool := c == 'e' || c == 'E'

/-- Whether a text has the form of a number with a fraction or an exponent, and is finite. -/
def isFloat (cs : List Char) : Bool :=
  let size := unsigned cs
  if size == "inf".toList || size == "nan".toList then true
  else
    let mantissa := size.takeWhile fun c ↦ !isExponentMark c
    let exponent := size.dropWhile fun c ↦ !isExponentMark c
    let whole := mantissa.takeWhile (· != '.')
    let fraction := mantissa.dropWhile (· != '.')
    let formed := (decimalDigits? whole).isSome &&
      (fraction.isEmpty || (digitsOf? Char.isDigit (fraction.drop 1)).isSome) &&
      (exponent.isEmpty || (digitsOf? Char.isDigit (unsigned (exponent.drop 1))).isSome) &&
      !(fraction.isEmpty && exponent.isEmpty)
    formed && ((Decimal.readUnsigned? (size.filter (· != '_'))).any (·.isFinite))

/-- The number of exactly two digits. -/
def twoDigits? : List Char → Option Nat
  | [a, b] => if a.isDigit && b.isDigit then some (Decimal.ofDigits [a, b]) else none
  | _ => none

def isLeapYear (y : Nat) : Bool := y % 4 == 0 && (y % 100 != 0 || y % 400 == 0)

def daysIn (year month : Nat) : Nat :=
  if month == 2 then (if isLeapYear year then 29 else 28)
  else if month == 4 || month == 6 || month == 9 || month == 11 then 30 else 31

def isDate (cs : List Char) : Bool :=
  let year := cs.take 4
  year.length == 4 && year.all Char.isDigit && cs[4]? == some '-' && cs[7]? == some '-' &&
    cs.length == 10 &&
    (twoDigits? ((cs.drop 5).take 2)).any fun month ↦ 1 ≤ month && month ≤ 12 &&
      (twoDigits? ((cs.drop 8).take 2)).any fun day ↦
        1 ≤ day && day ≤ daysIn (Decimal.ofDigits year) month

/-- Hours, minutes and seconds with perhaps a fraction. -/
def isTime (cs : List Char) : Bool :=
  cs[2]? == some ':' && cs[5]? == some ':' &&
    (twoDigits? (cs.take 2)).any (· ≤ 23) &&
    (twoDigits? ((cs.drop 3).take 2)).any (· ≤ 59) &&
    (twoDigits? ((cs.drop 6).take 2)).any (· ≤ 60) &&
    match cs.drop 8 with
    | [] => true
    | '.' :: digits => !digits.isEmpty && digits.all Char.isDigit
    | _ => false

/-- A zone, if there is one, at the end of a time. -/
def splitZone (cs : List Char) : List Char × List Char :=
  let time := cs.takeWhile fun c ↦ c.isDigit || c == ':' || c == '.'
  (time, cs.drop time.length)

def isZone (cs : List Char) : Bool :=
  match cs with
  | [c] => c == 'Z' || c == 'z'
  | sign :: offset =>
    (sign == '+' || sign == '-') && offset.length == 5 && offset[2]? == some ':' &&
      (twoDigits? (offset.take 2)).any (· ≤ 23) && (twoDigits? (offset.drop 3)).any (· ≤ 59)
  | [] => false

def isTimeMark (c : Char) : Bool := c == 'T' || c == 't' || c == ' '

/-- Whether a text has the form of a date, a time, or both with perhaps a zone. -/
def isDatetime (cs : List Char) : Bool :=
  if isDate cs || isTime cs then true
  else
    let (time, zone) := splitZone (cs.drop 11)
    isDate (cs.take 10) && cs[10]?.any isTimeMark && isTime time &&
      (zone.isEmpty || isZone zone)

/-! ### Values -/

def isBareChar (c : Char) : Bool := c.isAlphanum || "+-_.:".toList.contains c

/-- A value without quotes and brackets. A blank within one can only part a date from a time. -/
def takeBare (cs : List Char) : Option (Toml × List Char) :=
  let word := cs.takeWhile isBareChar
  let rest := cs.drop word.length
  let extended := match rest with
    | ' ' :: d :: _ =>
      if isDate word && d.isDigit then word ++ ' ' :: (rest.drop 1).takeWhile isBareChar else word
    | _ => word
  let value : Option Toml :=
    if extended == "true".toList then some (.bool true)
    else if extended == "false".toList then some (.bool false)
    else match intOf? extended with
      | some n => some (.int n)
      | none =>
        if isFloat extended then some .float
        else if isDatetime extended then some .datetime
        else none
  value.map (·, cs.drop extended.length)

/-- The table to which a dotted key leads, changed by `change`; tables on the way are made. -/
def updateDotted (change : Origin → Entries → Option Entries) (made : Origin) :
    List String → Origin → Entries → Option Entries
  | [], origin, entries => change origin entries
  | name :: rest, _, entries =>
    match entries.lookup name with
    | none =>
      (updateDotted change made rest made []).map fun inner ↦
        put name (.table made inner) entries
    | some (.table origin inner) =>
      if origin = .header ∨ origin = .inlined then none
      else (updateDotted change made rest origin inner).map fun inner ↦
        put name (.table origin inner) entries
    | some _ => none

/-- Define a key of a table; its parts before the last lead into tables of dotted keys. -/
def define (key : List String) (value : Toml) (entries : Entries) : Option Entries :=
  match key.getLast? with
  | none => none
  | some name =>
    let path := key.dropLast
    let change (origin : Origin) (inner : Entries) : Option Entries :=
      if (origin == .dotted) == path.isEmpty then none
      else if (inner.lookup name).isSome then none
      else some (inner ++ [(name, value)])
    updateDotted change .dotted path .header entries

mutual

def takeValue : Nat → List Char → Option (Toml × List Char)
  | 0, _ => none
  | fuel + 1, cs =>
    match cs with
    | '[' :: rest => takeItems fuel [] rest
    | '\x7b' :: rest =>
      match skipBlanks rest with
      | '\x7d' :: rest => some (.table .inlined [], rest)
      | rest => takePairs fuel [] rest
    | '"' :: _ => (takeString cs).map fun (s, rest) ↦ (.string s, rest)
    | '\'' :: _ => (takeString cs).map fun (s, rest) ↦ (.string s, rest)
    | cs => takeBare cs

/-- The items of an array up to its closing bracket, which a comma may precede. -/
def takeItems : Nat → List Toml → List Char → Option (Toml × List Char)
  | 0, _, _ => none
  | fuel + 1, reversed, cs =>
    match skipLines (cs.length + 1) cs with
    | ']' :: rest => some (.array reversed.reverse, rest)
    | cs =>
      match takeValue fuel cs with
      | none => none
      | some (v, rest) =>
        match skipLines (rest.length + 1) rest with
        | ',' :: rest => takeItems fuel (v :: reversed) rest
        | ']' :: rest => some (.array (v :: reversed).reverse, rest)
        | _ => none

/-- The pairs of a table in braces, which stand on one line. -/
def takePairs : Nat → Entries → List Char → Option (Toml × List Char)
  | 0, _, _ => none
  | fuel + 1, entries, cs =>
    match takeKey (cs.length + 1) cs with
    | some (key, '=' :: rest) =>
      match takeValue fuel (skipBlanks rest) with
      | none => none
      | some (v, rest) =>
        match define key v entries with
        | none => none
        | some entries =>
          match skipBlanks rest with
          | ',' :: rest => takePairs fuel entries rest
          | '\x7d' :: rest => some (.table .inlined entries, rest)
          | _ => none
    | _ => none

end

/-! ### Lines -/

/-- Change the table to which a header leads. In an array of tables it is the last one. -/
def updateHeader (change : Entries → Option Entries) : List String → Entries → Option Entries
  | [], entries => change entries
  | name :: rest, entries =>
    match entries.lookup name with
    | none =>
      (updateHeader change rest []).map fun inner ↦ put name (.table .path inner) entries
    | some (.table origin inner) =>
      if origin = .inlined then none
      else (updateHeader change rest inner).map fun inner ↦ put name (.table origin inner) entries
    | some (.tables (last :: before)) =>
      (updateHeader change rest last).map fun last ↦ put name (.tables (last :: before)) entries
    | some _ => none

/-- Open the table of a header, which may have been only passed through before. -/
def openTable (header : List String) (root : Entries) : Option Entries :=
  match header.getLast? with
  | none => none
  | some name =>
    updateHeader (fun entries ↦
      match entries.lookup name with
      | none => some (entries ++ [(name, .table .header [])])
      | some (.table .path inner) => some (put name (.table .header inner) entries)
      | some _ => none) header.dropLast root

def openArrayTable (header : List String) (root : Entries) : Option Entries :=
  match header.getLast? with
  | none => none
  | some name =>
    updateHeader (fun entries ↦
      match entries.lookup name with
      | none => some (entries ++ [(name, .tables [[]])])
      | some (.tables reversed) => some (put name (.tables ([] :: reversed)) entries)
      | some _ => none) header.dropLast root

/-- The key of a header up to and with its closing brackets. -/
def takeHeader (closing : List Char) (cs : List Char) : Option (List String × List Char) :=
  match takeKey (cs.length + 1) cs with
  | some (key, rest) =>
    if closing.isPrefixOf rest then some (key, rest.drop closing.length) else none
  | none => none

/-- Read line after line into the table of the last header. -/
def readLines : Nat → List String → Entries → List Char → Option Entries
  | 0, _, _, _ => none
  | fuel + 1, header, root, cs =>
    match skipLines (cs.length + 1) cs with
    | [] => some root
    | '[' :: '[' :: rest => do
      let (key, rest) ← takeHeader [']', ']'] rest
      let root ← openArrayTable key root
      let rest ← endLine? rest
      readLines fuel key root rest
    | '[' :: rest => do
      let (key, rest) ← takeHeader [']'] rest
      let root ← openTable key root
      let rest ← endLine? rest
      readLines fuel key root rest
    | cs => do
      let (key, rest) ← takeKey (cs.length + 1) cs
      match rest with
      | '=' :: rest =>
        let (v, rest) ← takeValue (rest.length + 1) (skipBlanks rest)
        let root ← updateHeader (define key v) header root
        let rest ← endLine? rest
        readLines fuel header root rest
      | _ => none

def dropByteOrderMark (cs : List Char) : List Char :=
  match cs with
  | c :: rest => if c.toNat = 0xFEFF then rest else c :: rest
  | [] => []

/-- The root table of a text. -/
def read? (text : String) : Option Entries :=
  let cs := dropByteOrderMark text.toList
  readLines (cs.length + 1) [] [] cs

end ClusterPlan.Toml
