import ClusterPlan.Decimal.Reader
import ClusterPlan.Json.Basic
import ClusterPlan.Reading

/-!
# Reading JSON

A text is one value with nothing but blanks around it. Values nest at most 127 deep.

A number that is not whole is read in two roundings: its first digits, as many as fit 64 bits, and
then the power of ten. A number beyond the doubles is read as infinite, which no text can write, so
that `Json.inRange` tells it apart.
-/

namespace ClusterPlan.Json

def isBlank (c : Char) : Bool := c == ' ' || c == '\n' || c == '\t' || c == '\r'

def skipBlanks (cs : List Char) : List Char := cs.dropWhile isBlank

theorem length_skipBlanks_le (cs : List Char) : (skipBlanks cs).length ≤ cs.length :=
  length_dropWhile_le _ cs

theorem length_le_of_skipBlanks_eq {cs rest : List Char} (h : skipBlanks cs = rest) :
    rest.length ≤ cs.length :=
  h ▸ length_skipBlanks_le cs

/-! ### Numbers -/

/-- The digits read so far, and the power of ten that goes with them. -/
structure Mantissa where
  significand : Nat
  exponent : Int

def wordLimit : Nat := Nat.pow 2 64 - 1

/-- Digits before the point: once one does not fit, it and all after it only raise the power. -/
def Mantissa.whole (m : Mantissa) : List Char → Mantissa
  | [] => m
  | c :: cs =>
    let next := 10 * m.significand + Decimal.digitValue c
    if next ≤ wordLimit then Mantissa.whole ⟨next, m.exponent⟩ cs
    else ⟨m.significand, m.exponent + (cs.length + 1 : Nat)⟩

/-- Digits behind the point: once one does not fit, it and all after it are dropped. -/
def Mantissa.fraction (m : Mantissa) : List Char → Mantissa
  | [] => m
  | c :: cs =>
    let next := 10 * m.significand + Decimal.digitValue c
    if next ≤ wordLimit then Mantissa.fraction ⟨next, m.exponent - 1⟩ cs else m

def tenTo (n : Nat) : Float := Decimal.nearestDecimal 1 n

def Mantissa.toFloat (m : Mantissa) : Float :=
  let digits := Decimal.nearest m.significand 1
  if m.significand = 0 then 0.0
  else if 308 < m.exponent then 1.0 / 0.0
  else if 0 ≤ m.exponent then digits * tenTo m.exponent.toNat
  else
    let e := (-m.exponent).toNat
    if e ≤ 308 then digits / tenTo e
    else if e ≤ 616 then digits / tenTo 308 / tenTo (e - 308)
    else 0.0

/-- A written number in its parts. -/
structure Numeral where
  negative : Bool
  whole : List Char
  fraction : Option (List Char)
  exponent : Option Int

def Numeral.value (n : Numeral) : Number :=
  match n.fraction, n.exponent with
  | none, none =>
    let size := Decimal.ofDigits n.whole
    if !n.negative && size ≤ wordLimit then .int size
    else if n.negative && 0 < size && size ≤ Nat.pow 2 63 then .int (-size)
    else
      let x := ((⟨0, 0⟩ : Mantissa).whole n.whole).toFloat
      .float (if n.negative then -x else x)
  | fraction, exponent =>
    let m := ((⟨0, 0⟩ : Mantissa).whole n.whole).fraction (fraction.getD [])
    let x := (⟨m.significand, m.exponent + exponent.getD 0⟩ : Mantissa).toFloat
    .float (if n.negative then -x else x)

def takeDigits (cs : List Char) : List Char × List Char :=
  (cs.takeWhile Char.isDigit, cs.dropWhile Char.isDigit)

/-- Behind the digits before the point: perhaps a point and digits. -/
def takeFraction (cs : List Char) : Option (Option (List Char) × List Char) :=
  match cs with
  | '.' :: rest =>
    let (digits, rest) := takeDigits rest
    if digits.isEmpty then none else some (some digits, rest)
  | cs => some (none, cs)

/-- Perhaps an exponent. -/
def takeExponent (cs : List Char) : Option (Option Int × List Char) :=
  match cs with
  | c :: rest =>
    if c == 'e' || c == 'E' then
      let (sign, rest) : Int × List Char := match rest with
        | '-' :: rest => (-1, rest)
        | '+' :: rest => (1, rest)
        | rest => (1, rest)
      let (digits, rest) := takeDigits rest
      if digits.isEmpty then none else some (some (sign * Decimal.ofDigits digits), rest)
    else some (none, c :: rest)
  | [] => some (none, [])

/-- A number without its sign: no zero stands before another digit. -/
def takeNumeral (negative : Bool) (cs : List Char) : Option (Numeral × List Char) := do
  let (whole, rest) := takeDigits cs
  if whole.isEmpty || (whole.head? == some '0' && 1 < whole.length) then none
  else
    let (fraction, rest) ← takeFraction rest
    let (exponent, rest) ← takeExponent rest
    some (⟨negative, whole, fraction, exponent⟩, rest)

/-! ### Strings -/

def takeHex4 : List Char → Option (Nat × List Char)
  | a :: b :: c :: d :: rest => (Decimal.readInBase? 16 [a, b, c, d]).map (·, rest)
  | _ => none

/-- The character behind a backslash. Two escapes of code units may stand for one character. -/
def takeEscape : List Char → Option (Char × List Char)
  | '"' :: rest => some ('"', rest)
  | '\\' :: rest => some ('\\', rest)
  | '/' :: rest => some ('/', rest)
  | 'b' :: rest => some ('\x08', rest)
  | 'f' :: rest => some ('\x0c', rest)
  | 'n' :: rest => some ('\n', rest)
  | 'r' :: rest => some ('\r', rest)
  | 't' :: rest => some ('\t', rest)
  | 'u' :: rest => do
    let (unit, rest) ← takeHex4 rest
    if unit < 0xD800 || 0xE000 ≤ unit then some (Char.ofNat unit, rest)
    else if 0xDC00 ≤ unit then none
    else match rest with
      | '\\' :: 'u' :: rest =>
        let (low, rest) ← takeHex4 rest
        if 0xDC00 ≤ low && low < 0xE000 then
          some (Char.ofNat (0x10000 + (unit - 0xD800) * 0x400 + (low - 0xDC00)), rest)
        else none
      | _ => none
  | _ => none

/-- The rest of a string whose opening quote has been read; `reversed` holds what came before. -/
def takeString (reversed : List Char) : List Char → Option (String × List Char)
  | [] => none
  | '"' :: rest => some (String.ofList reversed.reverse, rest)
  | '\\' :: rest =>
    match takeEscape rest with
    | none => none
    | some (c, after) =>
      if _ : after.length ≤ rest.length then takeString (c :: reversed) after else none
  | c :: rest => if c.toNat < 32 then none else takeString (c :: reversed) rest
termination_by cs => cs.length

/-! ### Values -/

/-- What was read from `cs`, provided that some of it was. -/
def taken? {α : Type} (cs : List Char) (read : Option (α × List Char)) :
    Option (Taken Char α cs) :=
  match read with
  | some (value, rest) => if h : rest.length < cs.length then some ⟨value, rest, h⟩ else none
  | none => none

def takeWord (word : List Char) (j : Json) (cs : List Char) : Option (Json × List Char) :=
  if word.isPrefixOf cs then some (j, cs.drop word.length) else none

def takeScalar : List Char → Option (Json × List Char)
  | '"' :: rest => (takeString [] rest).map fun (s, rest) ↦ (.string s, rest)
  | '-' :: rest => (takeNumeral true rest).map fun (n, rest) ↦ (.number n.value, rest)
  | 't' :: rest => takeWord "rue".toList (.bool true) rest
  | 'f' :: rest => takeWord "alse".toList (.bool false) rest
  | 'n' :: rest => takeWord "ull".toList .null rest
  | cs => (takeNumeral false cs).map fun (n, rest) ↦ (.number n.value, rest)

mutual

/-- A value after blanks; `depth` more containers may open in it. -/
def takeValue (depth : Nat) (cs : List Char) : Option (Taken Char Json cs) :=
  match h : skipBlanks cs with
  | '[' :: rest =>
    have : rest.length < cs.length := by
      have := length_skipBlanks_le cs; simp only [h, List.length_cons] at this; omega
    match depth with
    | 0 => none
    | depth + 1 =>
      match h' : skipBlanks rest with
      | ']' :: after => some ⟨.array [], after, by
          have := length_skipBlanks_le rest; simp only [h', List.length_cons] at this; omega⟩
      | _ => (takeItems depth rest).map fun t ↦ (t.map .array).within (by omega)
  | '\x7b' :: rest =>
    have : rest.length < cs.length := by
      have := length_skipBlanks_le cs; simp only [h, List.length_cons] at this; omega
    match depth with
    | 0 => none
    | depth + 1 =>
      match h' : skipBlanks rest with
      | '\x7d' :: after => some ⟨.object [], after, by
          have := length_skipBlanks_le rest; simp only [h', List.length_cons] at this; omega⟩
      | _ => (takeFields depth rest).map fun t ↦ (t.map .object).within (by omega)
  | other =>
    (taken? other (takeScalar other)).map fun t ↦ t.within (length_le_of_skipBlanks_eq h)
termination_by 2 * cs.length

/-- The items of an array from its first on, up to and with the closing bracket. -/
def takeItems (depth : Nat) (cs : List Char) : Option (Taken Char (List Json) cs) :=
  match takeValue depth cs with
  | none => none
  | some first =>
    match h : skipBlanks first.rest with
    | ',' :: rest =>
      have : rest.length < cs.length := by
        have := first.shorter
        have := length_skipBlanks_le first.rest; simp only [h, List.length_cons] at this; omega
      (takeItems depth rest).map fun t ↦ (t.map (first.value :: ·)).within (by omega)
    | ']' :: rest => some ⟨[first.value], rest, by
        have := first.shorter
        have := length_skipBlanks_le first.rest; simp only [h, List.length_cons] at this; omega⟩
    | _ => none
termination_by 2 * cs.length + 1

/-- The fields of an object from its first on, up to and with the closing brace. -/
def takeFields (depth : Nat) (cs : List Char) : Option (Taken Char (List (String × Json)) cs) :=
  match h : skipBlanks cs with
  | '"' :: opened =>
    match taken? opened (takeString [] opened) with
    | none => none
    | some key =>
      match h' : skipBlanks key.rest with
      | ':' :: rest =>
        have : rest.length + 1 < cs.length := by
          have := key.shorter
          have := length_skipBlanks_le cs; simp only [h, List.length_cons] at this
          have := length_skipBlanks_le key.rest; simp only [h', List.length_cons] at this
          omega
        match takeValue depth rest with
        | none => none
        | some value =>
          match h'' : skipBlanks value.rest with
          | ',' :: after =>
            have : after.length < cs.length := by
              have := value.shorter
              have := length_skipBlanks_le value.rest; simp only [h'', List.length_cons] at this
              omega
            (takeFields depth after).map fun t ↦
              (t.map ((key.value, value.value) :: ·)).within (by omega)
          | '\x7d' :: after => some ⟨[(key.value, value.value)], after, by
              have := value.shorter
              have := length_skipBlanks_le value.rest; simp only [h'', List.length_cons] at this
              omega⟩
          | _ => none
      | _ => none
  | _ => none
termination_by 2 * cs.length + 1

end

def depthLimit : Nat := 127

def read? (s : String) : Option Json :=
  match takeValue depthLimit s.toList with
  | some t => if (skipBlanks t.rest).isEmpty then some t.value else none
  | none => none

mutual

/-- Whether every number of a value is within the doubles. -/
def inRange : Json → Bool
  | .number (.float x) => x.isFinite
  | .array items => inRangeItems items
  | .object fields => inRangeFields fields
  | _ => true

def inRangeItems : List Json → Bool
  | [] => true
  | item :: rest => item.inRange && inRangeItems rest

def inRangeFields : List (String × Json) → Bool
  | [] => true
  | (_, v) :: rest => v.inRange && inRangeFields rest

end

end ClusterPlan.Json
