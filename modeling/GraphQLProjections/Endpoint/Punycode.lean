/-! Labels of domain names in ASCII: the characters beyond ASCII are written as a sequence of
differences between their codes and places, each a number of variable length to base 36. -/
namespace GraphQLProjections.Punycode

def digit (value : Nat) : Char :=
  if value < 26 then Char.ofNat (0x61 + value) else Char.ofNat (0x30 + value - 26)

def digitValue? (c : Char) : Option Nat :=
  if 'a' ≤ c ∧ c ≤ 'z' then some (c.toNat - 'a'.toNat)
  else if 'A' ≤ c ∧ c ≤ 'Z' then some (c.toNat - 'A'.toNat)
  else if '0' ≤ c ∧ c ≤ '9' then some (c.toNat - '0'.toNat + 26)
  else none

/-- The value below which the digit at a place is the last one. -/
def threshold (place bias : Nat) : Nat :=
  if place ≤ bias + 1 then 1 else if bias + 26 ≤ place then 26 else place - bias

/-- Divide until a difference is small; each division stands for one more place. -/
def adaptFrom (difference place : Nat) : Nat :=
  if h : 455 < difference then adaptFrom (difference / 35) (place + 36)
  else place + 36 * difference / (difference + 38)
termination_by difference
decreasing_by omega

def adapt (difference count : Nat) (first : Bool) : Nat :=
  let damped := if first then difference / 700 else difference / 2
  adaptFrom (damped + damped / count) 0

theorem threshold_pos (place bias : Nat) : 0 < threshold place bias := by
  unfold threshold; split
  · omega
  · split <;> omega

theorem threshold_le (place bias : Nat) : threshold place bias ≤ 26 := by
  unfold threshold; split
  · omega
  · split <;> omega

def encodeDifference (bias place value : Nat) : List Char :=
  let least := threshold place bias
  if h : value < least then [digit value]
  else
    digit (least + (value - least) % (36 - least)) ::
      encodeDifference bias (place + 36) ((value - least) / (36 - least))
termination_by value
decreasing_by
  have := threshold_pos place bias
  have := threshold_le place bias
  exact Nat.lt_of_le_of_lt (Nat.div_le_self _ _) (by omega)

structure State where
  output : List Char
  difference : Nat
  bias : Nat
  written : Nat

/-- Pass one character in the round of a code: smaller ones count, the code itself is written. -/
def pass (basic code : Nat) (state : State) (c : Char) : State :=
  if c.toNat < code then { state with difference := state.difference + 1 }
  else if c.toNat = code then
    { output := state.output ++ encodeDifference state.bias 36 state.difference
      difference := 0
      bias := adapt state.difference (state.written + 1) (state.written == basic)
      written := state.written + 1 }
  else state

def rounds (label : List Char) (basic : Nat) : List Nat → Nat → State → State
  | [], _, state => state
  | code :: rest, previous, state =>
    let start :=
      { state with difference := state.difference + (code - previous) * (state.written + 1) }
    let done := label.foldl (pass basic code) start
    rounds label basic rest (code + 1) { done with difference := done.difference + 1 }

def foreignCodes (label : List Char) : List Nat :=
  ((label.map Char.toNat).filter (128 ≤ ·)).eraseDups.mergeSort

/-- A label in ASCII, without the mark that tells it is encoded. -/
def encode (label : List Char) : List Char :=
  let basic := label.filter fun c => c.toNat < 128
  let start := if basic.isEmpty then [] else basic ++ ['-']
  (rounds label basic.length (foreignCodes label) 128 ⟨start, 0, 72, basic.length⟩).output

def decodeDifference (bias : Nat) : Nat → Nat → Nat → List Char → Option (Nat × List Char)
  | _, _, _, [] => none
  | place, weight, value, c :: rest =>
    match digitValue? c with
    | none => none
    | some found =>
      let value := value + found * weight
      let least := threshold place bias
      if found < least then some (value, rest)
      else decodeDifference bias (place + 36) (weight * (36 - least)) value rest

def decodeFrom (written : List Char) (code index bias : Nat) :
    Nat → List Char → Option (List Char)
  | _, [] => some written
  | 0, _ => none
  | bound + 1, cs =>
    match decodeDifference bias 36 1 0 cs with
    | none => none
    | some (difference, rest) =>
      let count := written.length + 1
      let total := index + difference
      let code := code + total / count
      let place := total % count
      if code.isValidChar then
        decodeFrom (written.take place ++ Char.ofNat code :: written.drop place) code (place + 1)
          (adapt difference count (index == 0)) bound rest
      else none

/-- The characters before the last hyphen stand for themselves. -/
def splitAtHyphen (encoded : List Char) : List Char × List Char :=
  let tail := (encoded.reverse.takeWhile (· ≠ '-')).reverse
  (encoded.take (encoded.length - tail.length - 1), tail)

def decode? (encoded : List Char) : Option (List Char) :=
  let (basic, tail) := splitAtHyphen encoded
  if encoded.all (·.toNat < 128) && (basic != [] || encoded == tail) then
    decodeFrom basic 128 0 72 encoded.length tail
  else none

end GraphQLProjections.Punycode
