import GraphQLProjections.Text.Numeral
import Std.Data.TreeMap

/-! Tables that give values to ranges of character codes. A table is written as a text of words
between blanks: `300-314=E6` gives a value to a range of codes, `101-12F/2=100` to every second
code of a range, and a range of one code is written as that code alone. Numbers are hexadecimal. A
table without values is a set of codes. -/
namespace GraphQLProjections.Text

/-- The codes `first`, `first + step`, and so on up to `last`, with their value. -/
structure CodeRange (α : Type) where
  first : Nat
  last : Nat
  step : Nat
  value : α
  deriving DecidableEq, Repr, Inhabited

def CodeRange.contains (range : CodeRange α) (code : Nat) : Bool :=
  range.first ≤ code && code ≤ range.last && (code - range.first) % range.step == 0

/-- Ranges by their first codes. No range starts between the codes of another, so the range that
starts last before a code is the only one that can hold it. -/
structure CodeTable (α : Type) where
  ranges : Std.TreeMap Nat (CodeRange α)

namespace CodeTable

def bounds? (codes : List Char) : Option (Nat × Nat × Nat) :=
  let (range, step) := (codes.takeWhile (· ≠ '/'), (codes.dropWhile (· ≠ '/')).drop 1)
  let (first, last) := (range.takeWhile (· ≠ '-'), (range.dropWhile (· ≠ '-')).drop 1)
  match hexNumber? first with
  | none => none
  | some first => some (first, (hexNumber? last).getD first, (hexNumber? step).getD 1)

def word? (value? : List Char → Option α) (word : List Char) : Option (CodeRange α) :=
  match bounds? (word.takeWhile (· ≠ '=')), value? ((word.dropWhile (· ≠ '=')).drop 1) with
  | some (first, last, step), some value => some ⟨first, last, step, value⟩
  | _, _ => none

def ofRanges (ranges : List (CodeRange α)) : CodeTable α :=
  ⟨ranges.foldl (fun table range => table.insert range.first range) ∅⟩

/-- Read a table; `value?` reads what follows the sign of equality. -/
def ofText (value? : List Char → Option α) (text : String) : CodeTable α :=
  ofRanges ((text.toList.splitOnP Char.isWhitespace).filterMap (word? value?))

def find? (table : CodeTable α) (code : Nat) : Option (CodeRange α) :=
  ((table.ranges.getEntryLE? code).map Prod.snd).filter (·.contains code)

def value? (table : CodeTable α) (code : Nat) : Option α :=
  (table.find? code).map (·.value)

def setOfText (text : String) : CodeTable Unit := ofText (fun _ => some ()) text

def contains (table : CodeTable α) (code : Nat) : Bool := (table.find? code).isSome

def codes? (cs : List Char) : Option (List Nat) := (cs.splitOn '.').mapM hexNumber?

end CodeTable
end GraphQLProjections.Text
