import ClusterPlan.Decimal.Double

/-!
# Shortest decimals

Every double is the one nearest to the reals of an interval around it. Its shortest decimal is the
one with the fewest digits in that interval and, of those, the one closest to the double itself;
when two are equally close, the form at hand says which is taken.
-/

namespace ClusterPlan.Decimal

/-- Which of two equally close decimals is taken. -/
inductive Tie where
  | upward
  | toEven
  deriving Repr, DecidableEq

/-- The decimal `digits × 10 ^ exponent`. -/
structure Digits where
  digits : List Char
  exponent : Int
  deriving Repr, DecidableEq

/-- The position of the point, counted from before the first digit. -/
def Digits.point (d : Digits) : Int := d.digits.length + d.exponent

/-- The reals that round to a double, all over one denominator. -/
structure Interval where
  low : Nat
  middle : Nat
  high : Nat
  den : Nat
  closed : Bool
  deriving Repr, DecidableEq

/-- The interval of `significand × 2 ^ exponent`. Below the smallest number of a binade the doubles
lie twice as close. -/
def Interval.around (significand : Nat) (exponent : Int) : Interval :=
  let gap :=
    if significand == Double.hiddenBit && Double.lowestExponent < exponent then 1 else 2
  let e := exponent - 2
  let up := Nat.pow 2 e.toNat
  ⟨(4 * significand - gap) * up, 4 * significand * up, (4 * significand + 2) * up,
    Nat.pow 2 (-e).toNat, significand % 2 == 0⟩

/-- The interval in units of `10 ^ e`. -/
def Interval.inUnits (i : Interval) (e : Int) : Interval :=
  let shrink := Nat.pow 10 (-e).toNat
  ⟨i.low * shrink, i.middle * shrink, i.high * shrink, i.den * Nat.pow 10 e.toNat, i.closed⟩

def Interval.holds (i : Interval) (n : Nat) : Bool :=
  if i.closed then i.low ≤ n * i.den && n * i.den ≤ i.high
  else i.low < n * i.den && n * i.den < i.high

/-- The whole number of the interval that is closest to its middle. -/
def Interval.closest? (i : Interval) (tie : Tie) : Option Nat :=
  let below := i.middle / i.den
  match i.holds below, i.holds (below + 1) with
  | true, true =>
    let twice := 2 * (i.middle % i.den)
    if twice < i.den then some below
    else if i.den < twice then some (below + 1)
    else match tie with
      | .upward => some (below + 1)
      | .toEven => some (below + below % 2)
  | true, false => some below
  | false, true => some (below + 1)
  | false, false => none

/-- The least `p` with `middle < 10 ^ p`. -/
def Interval.magnitude (i : Interval) : Int :=
  if i.den ≤ i.middle then (Nat.toDigits 10 (i.middle / i.den)).length
  else
    let zeros := (List.range 330).find? (fun j ↦ i.den ≤ i.middle * Nat.pow 10 (j + 1));
    Int.neg (zeros.getD 0)

/-- Zeros at the end of the digits belong to the exponent. -/
def Digits.normal (n : Nat) (e : Int) : Digits :=
  let reversed := (Nat.toDigits 10 n).reverse
  let kept := reversed.dropWhile (· == '0')
  ⟨kept.reverse, e + (reversed.length - kept.length : Nat)⟩

/-- The shortest decimal of a positive double. -/
def shortest (tie : Tie) (significand : Nat) (exponent : Int) : Digits :=
  let i := Interval.around significand exponent
  let p := i.magnitude
  let found := (List.range 17).findSome? fun n ↦
    let e := p - (n + 1 : Nat)
    ((i.inUnits e).closest? tie).map fun m ↦ Digits.normal m e
  found.getD ⟨[], 0⟩

end ClusterPlan.Decimal
