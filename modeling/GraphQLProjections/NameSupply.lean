import Std.Data.ExtTreeMap
import Std.Data.ExtTreeSet
import GraphQLProjections.Text.UpperCase

/-! A supply of names for paths. A name is made of the capitalised segments of its path and a
suffix; if another path has it already, the least free number from 2 on is put before the suffix.
A path keeps its name for ever, and no two paths share one. Reserving a name marks it as emitted. -/
namespace GraphQLProjections

structure NameSupply where
  abbreviated : Bool
  /-- The name of every path that has come, by the key of the path. -/
  assigned : Std.ExtTreeMap String String
  /-- The path key of every name that is taken. -/
  owners : Std.ExtTreeMap String String
  reserved : Std.ExtTreeSet String
  deriving DecidableEq, Repr, Inhabited

namespace NameSupply

/-- The length to which all segments but the last are cut in abbreviated names. -/
def shortLength : Nat := 3

def rootSuffix : String := "ProjectionRoot"
def projectionSuffix : String := "Projection"
def representationSuffix : String := "Representation"
def querySuffix : String := "GraphQLQuery"

def empty (abbreviated : Bool) : NameSupply := ⟨abbreviated, ∅, ∅, ∅⟩

/-- The key under which the name of a path is remembered. -/
def pathKey (path : List String) (suffix : String) : String :=
  "/".intercalate path ++ "#" ++ suffix

def shortened (segment : String) : String :=
  String.ofList (segment.toList.take shortLength)

/-- The capitalised segments, all but the last one cut if names are abbreviated. -/
def baseName (abbreviated : Bool) : List String → String
  | [] => ""
  | [segment] => Text.capitalized segment
  | segment :: rest =>
    let shown := Text.capitalized segment
    (if abbreviated then shortened shown else shown) ++ baseName abbreviated rest

/-- The names to try for a path: without a number, then with 2, 3, …. -/
def candidate (base suffix : String) : Nat → String
  | 0 => base ++ suffix
  | index + 1 => base ++ toString (index + 2) ++ suffix

/-- The first candidate from an index on that is not taken. Among one candidate more than there are
taken names one is free, so a bound of their number suffices. -/
def firstFree (isTaken : String → Bool) (base suffix : String) : Nat → Nat → String
  | 0, index => candidate base suffix index
  | bound + 1, index =>
    if isTaken (candidate base suffix index) then
      firstFree isTaken base suffix bound (index + 1)
    else candidate base suffix index

def isTaken (supply : NameSupply) (name : String) : Bool := supply.owners.contains name

def freshName (supply : NameSupply) (path : List String) (suffix : String) : String :=
  firstFree supply.isTaken (baseName supply.abbreviated path) suffix supply.owners.size 0

def assign (supply : NameSupply) (key name : String) : NameSupply :=
  { supply with
    assigned := supply.assigned.insert key name
    owners := supply.owners.insert name key }

/-- The name of a path: the one it has, or else the first free one, which it keeps. -/
def allocate (supply : NameSupply) (path : List String) (suffix : String) : String × NameSupply :=
  match supply.assigned[pathKey path suffix]? with
  | some name => (name, supply)
  | none =>
    let name := supply.freshName path suffix
    (name, supply.assign (pathKey path suffix) name)

def isReserved (supply : NameSupply) (name : String) : Bool := supply.reserved.contains name

/-- Mark a name as emitted. -/
def reserve (supply : NameSupply) (name : String) : NameSupply :=
  { supply with reserved := supply.reserved.insert name }

/-- Name a path and reserve the name; the flag tells whether it was still free to reserve. -/
def claim (supply : NameSupply) (path : List String) (suffix : String) :
    (String × Bool) × NameSupply :=
  let (name, supply) := supply.allocate path suffix
  ((name, !supply.isReserved name), supply.reserve name)

theorem isReserved_reserve (supply : NameSupply) (name other : String) :
    (supply.reserve name).isReserved other = (name == other || supply.isReserved other) := by
  unfold reserve isReserved
  rw [Std.ExtTreeSet.contains_insert]
  by_cases same : name = other
  · simp [same]
  · have differs : compare name other ≠ .eq := fun h => same (Std.LawfulEqCmp.eq_of_compare h)
    simp [same, beq_false_of_ne differs]

theorem assigned_assign (supply : NameSupply) (key other name : String) :
    (supply.assign key name).assigned[other]? =
      if key = other then some name else supply.assigned[other]? := by
  unfold assign
  rw [Std.ExtTreeMap.getElem?_insert]
  simp only [Std.LawfulEqCmp.compare_eq_iff_eq]

theorem owners_assign (supply : NameSupply) (key name other : String) :
    (supply.assign key name).owners[other]? =
      if name = other then some key else supply.owners[other]? := by
  unfold assign
  rw [Std.ExtTreeMap.getElem?_insert]
  simp only [Std.LawfulEqCmp.compare_eq_iff_eq]

/-- A path that has a name keeps it, and asking for it again changes nothing. -/
theorem allocate_of_assigned (supply : NameSupply) (path : List String) (suffix name : String)
    (known : supply.assigned[pathKey path suffix]? = some name) :
    supply.allocate path suffix = (name, supply) := by
  unfold allocate
  rw [known]

def reservedCount (supply : NameSupply) : Nat := supply.reserved.size

end NameSupply
end GraphQLProjections
