/-! Binary floating point numbers of 64 bits as exact values. Conversions round to the nearest
representable value, ties to an even significand, and are computed in `Nat`. -/
namespace GraphQLProjections

/-- A finite value is `± significand * 2 ^ exponent`, with a significand below `2 ^ 53`. -/
inductive Binary64 where
  | finite (negative : Bool) (significand : Nat) (exponent : Int)
  | infinite (negative : Bool)
  deriving DecidableEq, Repr, Inhabited

namespace Binary64

def leastExponent : Int := -1074
def greatestExponent : Int := 971

def zero (negative : Bool) : Binary64 := .finite negative 0 leastExponent

def isInfinite : Binary64 → Bool
  | .infinite _ => true
  | .finite .. => false

def negated : Binary64 → Binary64
  | .finite negative significand exponent => .finite (!negative) significand exponent
  | .infinite negative => .infinite (!negative)

/-- `numerator / denominator * 2 ^ (-exponent)` as a pair. -/
def scaledRatio (numerator denominator : Nat) (exponent : Int) : Nat × Nat :=
  if exponent < 0 then (numerator * Nat.pow 2 exponent.natAbs, denominator)
  else (numerator, denominator * Nat.pow 2 exponent.natAbs)

def roundHalfEven (numerator denominator : Nat) : Nat :=
  let quotient := numerator / denominator
  let twice := 2 * (numerator % denominator)
  if twice < denominator || (twice == denominator && quotient % 2 == 0) then quotient
  else quotient + 1

/-- The exponent at which a positive ratio has a significand of 53 bits, or the least one. -/
def exponentOf (numerator denominator : Nat) : Int :=
  let estimate : Int := (Nat.log2 numerator : Int) - (Nat.log2 denominator : Int) - 53
  let low := max estimate leastExponent
  let (n, d) := scaledRatio numerator denominator low
  if n / d < Nat.pow 2 53 then low else low + 1

def ofRatio (negative : Bool) (numerator denominator : Nat) : Binary64 :=
  if numerator = 0 then zero negative
  else
    let exponent := exponentOf numerator denominator
    let (n, d) := scaledRatio numerator denominator exponent
    let rounded := roundHalfEven n d
    let (significand, exponent) :=
      if rounded = Nat.pow 2 53 then (Nat.pow 2 52, exponent + 1) else (rounded, exponent)
    if greatestExponent < exponent then .infinite negative
    else .finite negative significand exponent

/-- The nearest value to `digits * 10 ^ exponent`. Exponents far outside the range are decided
without computing the power. -/
def ofDecimal (negative : Bool) (digits : Nat) (exponent : Int) : Binary64 :=
  if digits = 0 then zero negative
  else
    let magnitude : Int := exponent + (Nat.toDigits 10 digits).length
    if 400 < magnitude then .infinite negative
    else if magnitude < -400 then zero negative
    else if exponent < 0 then ofRatio negative digits (Nat.pow 10 exponent.natAbs)
    else ofRatio negative (digits * Nat.pow 10 exponent.natAbs) 1

def ratio? : Binary64 → Option (Nat × Nat)
  | .finite _ significand exponent =>
    if exponent < 0 then some (significand, Nat.pow 2 exponent.natAbs)
    else some (significand * Nat.pow 2 exponent.natAbs, 1)
  | .infinite _ => none

def magnitudeProduct (x y : Binary64) : Binary64 :=
  match x.ratio?, y.ratio? with
  | some (a, b), some (c, d) => ofRatio false (a * c) (b * d)
  | _, _ => .infinite false

def magnitudeQuotient (x y : Binary64) : Binary64 :=
  match x.ratio?, y.ratio? with
  | some (a, b), some (c, d) => ofRatio false (a * d) (b * c)
  | _, _ => .infinite false

end Binary64
end GraphQLProjections
