/-!
# Doubles by their bits

A double is a sign, a significand and a power of two. `Double.ofFloat` reads these off the bits of
a number, `Double.nearest` finds the double that lies nearest to a quotient, and `remainder` is the
exact remainder of a division that is cut off toward zero.
-/

namespace ClusterPlan.Decimal

inductive Double where
  | nan
  | infinite (negative : Bool)
  | finite (negative : Bool) (significand : Nat) (exponent : Int)
  deriving Repr, DecidableEq

/-- The exponent of the subnormal numbers, below which no double has a digit. -/
def Double.lowestExponent : Int := -1074

/-- The significand of the smallest number of a binade. -/
def Double.hiddenBit : Nat := Nat.pow 2 52

def Double.ofFloat (x : Float) : Double :=
  let bits : Nat := x.toBits.toNat
  let negative := bits / Nat.pow 2 63 == 1
  let field : Nat := bits / Nat.pow 2 52 % 2048
  let fraction := bits % Nat.pow 2 52
  if field == 2047 then
    if fraction == 0 then .infinite negative else .nan
  else if field == 0 then .finite negative fraction lowestExponent
  else .finite negative (hiddenBit + fraction) (lowestExponent + (field : Int) - 1)

/-- The quotient rounded to the nearest whole number, a half to the even neighbour. -/
def roundHalfEven (num den : Nat) : Nat :=
  let whole := num / den
  let twice := 2 * (num % den)
  if twice < den then whole
  else if den < twice then whole + 1
  else whole + whole % 2

/-- The exponent at which the significand of `num / den` has its 53 bits, if it is not too low. -/
def binadeOf (num den : Nat) : Int :=
  let guess : Int := (num.log2 : Int) - den.log2 - 53
  let scaled (e : Int) : Nat × Nat :=
    if 0 ≤ e then (num, den * Nat.pow 2 e.toNat) else (num * Nat.pow 2 (-e).toNat, den)
  let (n, d) := scaled guess
  max Double.lowestExponent (if n < Nat.pow 2 53 * d then guess else guess + 1)

/-- The bits of the nonnegative double nearest to `num / den`. -/
def nearestBits (num den : Nat) : Nat :=
  if num == 0 then 0
  else
    let e := binadeOf num den
    let significand :=
      if 0 ≤ e then roundHalfEven num (den * Nat.pow 2 e.toNat)
      else roundHalfEven (num * Nat.pow 2 (-e).toNat) den
    min (2047 * Nat.pow 2 52) ((e - Double.lowestExponent).toNat * Nat.pow 2 52 + significand)

def nearest (num den : Nat) : Float := Float.ofBits (UInt64.ofNat (nearestBits num den))

/-- The value of digits and a power of ten. An exponent far outside the range of doubles is
settled without computing the power. -/
def nearestDecimal (coefficient : Nat) (exponent : Int) : Float :=
  let size : Int := (Nat.toDigits 10 coefficient).length + exponent
  if coefficient == 0 || size < -400 then 0.0
  else if 400 < size then nearest (Nat.pow 10 400) 1
  else if 0 ≤ exponent then nearest (coefficient * Nat.pow 10 exponent.toNat) 1
  else nearest coefficient (Nat.pow 10 (-exponent).toNat)

/-- The least whole number that a number does not exceed, kept within zero and a limit. -/
def ceiling (limit : Nat) (x : Float) : Nat :=
  match Double.ofFloat x with
  | .infinite false => limit
  | .finite false significand e =>
    min limit
      (if 0 ≤ e then significand * Nat.pow 2 e.toNat
      else (significand + Nat.pow 2 (-e).toNat - 1) / Nat.pow 2 (-e).toNat)
  | _ => 0

/-- The remainder of the division cut off toward zero; it has the sign of the dividend. -/
def remainder (x y : Float) : Float :=
  match Double.ofFloat x, Double.ofFloat y with
  | .finite negative a p, .finite _ b q =>
    if b == 0 then 0.0 / 0.0
    else
      let e := min p q
      let rest := (a * Nat.pow 2 (p - e).toNat) % (b * Nat.pow 2 (q - e).toNat)
      let size :=
        if 0 ≤ e then nearest (rest * Nat.pow 2 e.toNat) 1 else nearest rest (Nat.pow 2 (-e).toNat)
      if negative then -size else size
  | .finite .., .infinite _ => x
  | _, _ => 0.0 / 0.0

end ClusterPlan.Decimal
