import GraphQLProjections.Text.CombiningClass
import GraphQLProjections.Text.Composite

/-! Composed texts: marks stand in the order of their combining classes, and characters with marks
are composites as far as there are such. Texts that differ only in how they write a character with
its marks have the same composed form. -/
namespace GraphQLProjections.Text

/-- A composite has at most this many parts after its first. -/
def greatestDepth : Nat := 4

def decomposedWithin : Nat → Char → List Char
  | 0, c => [c]
  | depth + 1, c =>
    match parts? c with
    | some (first, second) => decomposedWithin depth first ++ [second]
    | none => [c]

def decomposed (cs : List Char) : List Char := cs.flatMap (decomposedWithin greatestDepth)

/-- Put a character before those that follow it; a mark goes behind marks of smaller classes. -/
def insertInOrder (c : Char) : List Char → List Char
  | [] => [c]
  | next :: rest =>
    if 0 < combiningClass next ∧ combiningClass next < combiningClass c then
      next :: insertInOrder c rest
    else c :: next :: rest

/-- Sort each group of marks by their classes; marks of one class keep their order. -/
def ordered (cs : List Char) : List Char := cs.foldr insertInOrder []

/-- Is a character kept from the start of its group by the marks in between? -/
def isBlocked (passed : List Char) (c : Char) : Bool :=
  passed.getLast?.any fun mark => combiningClass c ≤ combiningClass mark

/-- Compose from a start and the marks after it that did not compose with it. -/
def composeFrom (start : Char) (passed : List Char) : List Char → List Char
  | [] => start :: passed
  | c :: rest =>
    match (if isBlocked passed c then none else composite? start c) with
    | some composite => composeFrom composite passed rest
    | none =>
      if combiningClass c = 0 then start :: passed ++ composeFrom c [] rest
      else composeFrom start (passed ++ [c]) rest

def composed (cs : List Char) : List Char :=
  match ordered (decomposed cs) with
  | [] => []
  | start :: rest => composeFrom start [] rest

def isComposed (cs : List Char) : Bool := composed cs == cs

end GraphQLProjections.Text
