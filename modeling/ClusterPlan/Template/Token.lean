import ClusterPlan.Decimal.Layout
import ClusterPlan.Decimal.Reader
import ClusterPlan.Reading
import ClusterPlan.Text.Alphabetic
import ClusterPlan.Text.Blank
import ClusterPlan.Text.Quoted

/-!
# Tokens of an expression

Numbers, quoted strings, identifiers and punctuation. Where several marks fit, the longest is taken.
-/

namespace ClusterPlan.Template

inductive Punct where
  | strictlyEqual | strictlyUnequal | equal | unequal | atMost | atLeast | and | or | nullish
  | leftParen | rightParen | leftBracket | rightBracket | leftBrace | rightBrace
  | comma | dot | colon | question | plus | minus | star | slash | percent | bang | less | greater
  deriving Repr, DecidableEq

namespace Punct

def text : Punct → String
  | strictlyEqual => "===" | strictlyUnequal => "!==" | equal => "==" | unequal => "!="
  | atMost => "<=" | atLeast => ">=" | and => "&&" | or => "||" | nullish => "??"
  | leftParen => "(" | rightParen => ")" | leftBracket => "[" | rightBracket => "]"
  | leftBrace => "\x7b" | rightBrace => "\x7d" | comma => "," | dot => "." | colon => ":"
  | question => "?" | plus => "+" | minus => "-" | star => "*" | slash => "/" | percent => "%"
  | bang => "!" | less => "<" | greater => ">"

/-- All marks, each before those that begin it. -/
def all : List Punct :=
  [strictlyEqual, strictlyUnequal, equal, unequal, atMost, atLeast, and, or, nullish, leftParen,
    rightParen, leftBracket, rightBracket, leftBrace, rightBrace, comma, dot, colon, question,
    plus, minus, star, slash, percent, bang, less, greater]

def ofFront? (cs : List Char) : Option Punct := all.find? (·.text.toList.isPrefixOf cs)

end Punct

inductive Token where
  | number (x : Float)
  | string (s : String)
  | ident (name : String)
  | punct (p : Punct)

namespace Token

/-- How a token is named in an error. -/
def description : Token → String
  | number x => "Number(" ++ Decimal.Layout.exact.write x ++ ")"
  | string s => "Str(" ++ Text.quoted s ++ ")"
  | ident name => "Ident(" ++ Text.quoted name ++ ")"
  | punct p => "Punct(" ++ Text.quoted p.text ++ ")"

/-- What keeps a text from being split into tokens. -/
inductive Fault where
  | invalidNumber (text : String)
  | unterminatedString
  | unexpectedCharacter (c : Char)
  deriving Repr, DecidableEq

def Fault.message : Fault → String
  | invalidNumber text => "invalid number literal `" ++ text ++ "`"
  | unterminatedString => "unterminated string literal"
  | unexpectedCharacter c => "unexpected character `" ++ String.singleton c ++ "`"

def isNumberChar (c : Char) : Bool := c.isDigit || c == '.'

/-- A number starts with a digit, or with a point and a digit. -/
def startsNumber : List Char → Bool
  | '.' :: d :: _ => d.isDigit
  | c :: _ => c.isDigit
  | [] => false

def startsIdent (c : Char) : Bool := Text.isAlphabetic c || c == '_' || c == '$'

def isIdentChar (c : Char) : Bool := Text.isAlphanumeric c || c == '_' || c == '$'

/-- The character that a backslash and `c` stand for. -/
def unescape (c : Char) : Char :=
  match c with
  | 'n' => '\n'
  | 't' => '\t'
  | 'r' => '\r'
  | c => c

/-- The contents of a string up to and with its closing quote. -/
def takeString (quote : Char) : (cs : List Char) → Option (Taken Char (List Char) cs)
  | [] => none
  | c :: rest =>
    if c = quote then some ⟨[], rest, by simp⟩
    else if c = '\\' then
      match rest with
      | [] => none
      | e :: rest => (takeString quote rest).map fun t ↦
          (t.map (unescape e :: ·)).within (Nat.le_add_right _ 2)
    else (takeString quote rest).map fun t ↦ (t.map (c :: ·)).within (by simp)

/-- The token at the front of a text that starts with no blank. -/
def take (c : Char) (cs : List Char) : Except Fault (Taken Char Token (c :: cs)) :=
  if startsNumber (c :: cs) then
    let text := c :: cs.takeWhile isNumberChar
    match Decimal.readFraction? text 0 with
    | some x => .ok ⟨.number x, cs.dropWhile isNumberChar,
        Nat.lt_succ_of_le (length_dropWhile_le _ cs)⟩
    | none => .error (.invalidNumber (String.ofList text))
  else if c = '"' ∨ c = '\'' then
    match takeString c cs with
    | some t => .ok ((t.map fun contents ↦ .string (String.ofList contents)).within (by simp))
    | none => .error .unterminatedString
  else if startsIdent c then
    .ok ⟨.ident (String.ofList (c :: cs.takeWhile isIdentChar)), cs.dropWhile isIdentChar,
      Nat.lt_succ_of_le (length_dropWhile_le _ cs)⟩
  else
    match Punct.ofFront? (c :: cs) with
    | some p => .ok ⟨.punct p, cs.drop (p.text.length - 1), by
        simp only [List.length_drop, List.length_cons]; omega⟩
    | none => .error (.unexpectedCharacter c)

def scan : List Char → Except Fault (List Token)
  | [] => .ok []
  | c :: cs =>
    if Text.isBlank c then scan cs
    else
      match take c cs with
      | .error fault => .error fault
      | .ok t =>
        match scan t.rest with
        | .error fault => .error fault
        | .ok tokens => .ok (t.value :: tokens)
termination_by cs => cs.length
decreasing_by
  · exact Nat.lt_succ_self _
  · exact t.shorter

def tokenize (source : String) : Except Fault (List Token) := scan source.toList

end Token

end ClusterPlan.Template
