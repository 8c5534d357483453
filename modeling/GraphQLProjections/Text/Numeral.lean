/-! Unsigned numbers as digits to a base of at most sixteen. -/
namespace GraphQLProjections.Text

def digitValue? (c : Char) : Option Nat :=
  if '0' ≤ c ∧ c ≤ '9' then some (c.toNat - '0'.toNat)
  else if 'a' ≤ c ∧ c ≤ 'f' then some (c.toNat - 'a'.toNat + 10)
  else if 'A' ≤ c ∧ c ≤ 'F' then some (c.toNat - 'A'.toNat + 10)
  else none

/-- The digit that continues a number, if it is one to the base. -/
def continued? (base value : Nat) (c : Char) : Option Nat :=
  ((digitValue? c).filter (· < base)).map (base * value + ·)

/-- Digits read as a number; no digits stand for zero. -/
def numberTo? (base : Nat) (cs : List Char) : Option Nat :=
  cs.foldlM (continued? base) 0

def hexNumber? (cs : List Char) : Option Nat :=
  if cs.isEmpty then none else numberTo? 16 cs

end GraphQLProjections.Text
