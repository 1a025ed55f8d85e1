import ClusterPlan.Decimal.Shortest

/-!
# Written numbers

How the shortest decimal of a number is set out on the page: where the point stands, when an
exponent is used instead, and what zero and the numbers that are not finite look like. Each written
form of the program is one `Layout`.
-/

namespace ClusterPlan.Decimal

structure Layout where
  tie : Tie
  /-- Without an exponent, the point stands at least here, counted from before the first digit. -/
  lowestPoint : Option Int
  /-- Without an exponent, the point stands at most here. -/
  highestPoint : Option Int
  /-- What follows a whole number that is written without an exponent. -/
  wholeEnd : String
  exponentPlus : Bool
  signedZero : Bool
  infinity : String
  nan : String

namespace Layout

def positional (layout : Layout) (point : Int) : Bool :=
  layout.lowestPoint.all (· ≤ point) && layout.highestPoint.all (point ≤ ·)

def writePositional (layout : Layout) (d : Digits) : String :=
  let point := d.point
  if point ≤ 0 then
    String.ofList ('0' :: '.' :: List.replicate (-point).toNat '0' ++ d.digits)
  else if (d.digits.length : Int) ≤ point then
    String.ofList (d.digits ++ List.replicate d.exponent.toNat '0') ++ layout.wholeEnd
  else
    String.ofList (d.digits.take point.toNat ++ '.' :: d.digits.drop point.toNat)

/-- One digit before the point, the others behind it, and the exponent of the first. -/
def writeScientific (layout : Layout) (d : Digits) : String :=
  let exponent := d.point - 1
  let mantissa := match d.digits with
    | [] => ""
    | [c] => String.ofList [c]
    | c :: cs => String.ofList (c :: '.' :: cs)
  let sign := if exponent < 0 then "-" else if layout.exponentPlus then "+" else ""
  mantissa ++ "e" ++ sign ++ toString exponent.natAbs

def write (layout : Layout) (x : Float) : String :=
  match Double.ofFloat x with
  | .nan => layout.nan
  | .infinite negative => (if negative then "-" else "") ++ layout.infinity
  | .finite negative 0 _ =>
    (if negative && layout.signedZero then "-0" else "0") ++ layout.wholeEnd
  | .finite negative significand exponent =>
    let d := shortest layout.tie significand exponent
    let size := if layout.positional d.point then layout.writePositional d
      else layout.writeScientific d
    if negative then "-" ++ size else size

/-- All digits, whole numbers without a point. -/
def plain : Layout := ⟨.upward, none, none, "", false, true, "inf", "NaN"⟩

/-- Always with a point or an exponent, which is used from `1e16` up and below `1e-4`. -/
def exact : Layout := ⟨.upward, some (-3), some 16, ".0", false, true, "inf", "NaN"⟩

end Layout

end ClusterPlan.Decimal
