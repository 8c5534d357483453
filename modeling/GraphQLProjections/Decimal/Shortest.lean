import GraphQLProjections.Decimal.Binary64

/-! The shortest decimal that reads back as a given binary number, and its written forms. On
each decimal grid only the two neighbours of the value can lie in the interval of numbers that
round to it; the coarsest grid with a neighbour inside fixes the digits. -/
namespace GraphQLProjections.Decimal

/-- `digits * 10 ^ exponent`. -/
structure Scaled where
  digits : Nat
  exponent : Int
  deriving DecidableEq, Repr, Inhabited

/-- The values that round to `value`, all over one denominator; the ends count when `closed`. -/
structure Interval where
  low : Nat
  value : Nat
  high : Nat
  denominator : Nat
  closed : Bool

/-- Half the gap to the next value on either side; below a power of two the gap is narrower. -/
def Interval.ofSignificand (significand : Nat) (exponent : Int) : Interval :=
  let narrow := significand = Nat.pow 2 52 ∧ Binary64.leastExponent < exponent
  let below := if narrow then 1 else 2
  let scale := exponent - 2
  let up := if scale < 0 then 1 else Nat.pow 2 scale.natAbs
  let down := if scale < 0 then Nat.pow 2 scale.natAbs else 1
  ⟨(4 * significand - below) * up, 4 * significand * up, (4 * significand + 2) * up, down,
    significand % 2 == 0⟩

def Interval.holds (range : Interval) (digits : Nat) (exponent : Int) : Bool :=
  let point := if exponent < 0 then digits * range.denominator
    else digits * Nat.pow 10 exponent.natAbs * range.denominator
  let scale := if exponent < 0 then Nat.pow 10 exponent.natAbs else 1
  if range.closed then range.low * scale ≤ point && point ≤ range.high * scale
  else range.low * scale < point && point < range.high * scale

def Interval.over (range : Interval) (exponent : Int) : Nat × Nat :=
  if exponent < 0 then (range.value * Nat.pow 10 exponent.natAbs, range.denominator)
  else (range.value, range.denominator * Nat.pow 10 exponent.natAbs)

inductive Tie where
  | upper
  | even
  deriving DecidableEq, Repr, Inhabited

def Tie.goesUp : Tie → Nat → Bool
  | upper, _ => true
  | even, lower => lower % 2 == 1

def Interval.pick? (tie : Tie) (range : Interval) (exponent : Int) : Option Nat :=
  let (n, d) := range.over exponent
  let lower := n / d
  let twice := 2 * (n % d)
  let upperCloser := d < twice || (twice == d && tie.goesUp lower)
  let lowerIn := range.holds lower exponent
  let upperIn := range.holds (lower + 1) exponent
  if lowerIn && (!upperIn || !upperCloser) then some lower
  else if upperIn then some (lower + 1)
  else none

def leadingExponent (numerator denominator : Nat) : Int :=
  if denominator ≤ numerator then (Nat.toDigits 10 (numerator / denominator)).length - 1
  else
    let ceiling := (denominator + numerator - 1) / numerator
    Int.neg (Nat.toDigits 10 (ceiling - 1)).length

/-- Try grids from one digit on; seventeen digits always suffice. -/
def shortestFrom (tie : Tie) (range : Interval) (leading : Int) : Nat → Nat → Scaled
  | 0, _ => ⟨range.value, 0⟩
  | fuel + 1, count =>
    let exponent := leading - count
    match range.pick? tie exponent with
    | some digits => ⟨digits, exponent⟩
    | none => shortestFrom tie range leading fuel (count + 1)

def Scaled.stripped : Nat → Scaled → Scaled
  | 0, number => number
  | fuel + 1, number =>
    if number.digits ≠ 0 ∧ number.digits % 10 = 0 then
      Scaled.stripped fuel ⟨number.digits / 10, number.exponent + 1⟩
    else number

/-- The shortest decimal that rounds to a positive `significand * 2 ^ exponent`. -/
def shortest (tie : Tie) (significand : Nat) (exponent : Int) : Scaled :=
  let range := Interval.ofSignificand significand exponent
  (shortestFrom tie range (leadingExponent range.value range.denominator) 18 0).stripped 18

/-- Choices of a written form: the exponents of the first digit that are written out in place,
whether a positive power of ten shows its sign, and the neighbour that a tie goes to. -/
structure Notation where
  leastPlain : Int
  greatestPlain : Int
  signedPower : Bool
  tie : Tie
  deriving DecidableEq, Repr, Inhabited

/-- Number literals: `0.0001` and `1e-5`, `1000000000000000.0` and `1e16`. -/
def literalNotation : Notation := ⟨-4, 15, false, .upper⟩

/-- Numbers inside data exchange messages: `100.0`, `1e+26`. -/
def messageNotation : Notation := ⟨-5, 15, true, .even⟩

def zeros (count : Nat) : String := String.ofList (List.replicate count '0')

/-- Digits with a point after the first `whole` of them, and at least one digit on both sides. -/
def plainText (digits : List Char) (whole : Int) : String :=
  if whole ≤ 0 then "0." ++ zeros whole.natAbs ++ String.ofList digits
  else
    let count := whole.natAbs
    if digits.length ≤ count then
      String.ofList digits ++ zeros (count - digits.length) ++ ".0"
    else String.ofList (digits.take count) ++ "." ++ String.ofList (digits.drop count)

def powerText (style : Notation) (digits : List Char) (power : Int) : String :=
  let fraction := match digits.drop 1 with
    | [] => ""
    | rest => "." ++ String.ofList rest
  let sign := if power < 0 then "-" else if style.signedPower then "+" else ""
  String.ofList (digits.take 1) ++ fraction ++ "e" ++ sign ++
    String.ofList (Nat.toDigits 10 power.natAbs)

def text (style : Notation) : Binary64 → String
  | .infinite negative => if negative then "-inf" else "inf"
  | .finite negative significand exponent =>
    let sign := if negative then "-" else ""
    if significand = 0 then sign ++ "0.0"
    else
      let number := shortest style.tie significand exponent
      let digits := Nat.toDigits 10 number.digits
      let power := number.exponent + digits.length - 1
      if style.leastPlain ≤ power ∧ power ≤ style.greatestPlain then
        sign ++ plainText digits (power + 1)
      else sign ++ powerText style digits power

end GraphQLProjections.Decimal
