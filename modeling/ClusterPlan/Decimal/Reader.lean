import ClusterPlan.Decimal.Double

/-!
# Reading decimals

Digits with at most one point, and whole numbers in a given base.
-/

namespace ClusterPlan.Decimal

def digitValue (c : Char) : Nat := c.toNat - '0'.toNat

/-- The number written by decimal digits. -/
def ofDigits (cs : List Char) : Nat := cs.foldl (fun n c ↦ 10 * n + digitValue c) 0

/-- The value of a digit in a base of at most 16. -/
def digitInBase? (base : Nat) (c : Char) : Option Nat :=
  let value := if c.isDigit then some (c.toNat - '0'.toNat)
    else if 'a' ≤ c && c ≤ 'f' then some (c.toNat - 'a'.toNat + 10)
    else if 'A' ≤ c && c ≤ 'F' then some (c.toNat - 'A'.toNat + 10)
    else none
  value.filter (· < base)

/-- A nonempty run of digits of a base. -/
def readInBase? (base : Nat) (cs : List Char) : Option Nat :=
  if cs.isEmpty then none
  else cs.foldlM (fun n c ↦ (digitInBase? base c).map (base * n + ·)) 0

/-- A whole number of at most `limit`, with any number of zeros and perhaps a plus in front. -/
def readBounded? (limit : Nat) (cs : List Char) : Option Nat :=
  let digits := match cs with
    | '+' :: rest => rest
    | cs => cs
  (readInBase? 10 digits).filter (· ≤ limit)

/-- The number of digits with at most one point among them, at least one digit, and an exponent. -/
def readFraction? (cs : List Char) (exponent : Int) : Option Float :=
  let whole := cs.takeWhile (· != '.')
  let fraction := (cs.dropWhile (· != '.')).drop 1
  if whole.isEmpty && fraction.isEmpty then none
  else if (whole ++ fraction).all Char.isDigit then
    some (nearestDecimal (ofDigits (whole ++ fraction)) (exponent - fraction.length))
  else none

/-- A number without a sign: digits, at most one point and, after the letter `e`, an exponent. -/
def readUnsigned? (cs : List Char) : Option Float :=
  let isMark (c : Char) := c == 'e' || c == 'E'
  let mantissa := cs.takeWhile fun c ↦ !isMark c
  match cs.dropWhile fun c ↦ !isMark c with
  | [] => readFraction? mantissa 0
  | _ :: exponent =>
    match exponent with
    | '-' :: digits => (readInBase? 10 digits).bind fun e ↦ readFraction? mantissa (-e)
    | '+' :: digits => (readInBase? 10 digits).bind fun e ↦ readFraction? mantissa e
    | digits => (readInBase? 10 digits).bind fun e ↦ readFraction? mantissa e

end ClusterPlan.Decimal
