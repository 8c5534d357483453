import GraphQLProjections.Entries

/-! Filters: the fields an operation selects, level by level, and apart from them the fields it
selects on values of a named type only. -/
namespace GraphQLProjections

inductive Filter where
  | mk (fields fragments : List (String × Filter))
  deriving Repr, Inhabited

namespace Filter

def fields : Filter → Entries Filter
  | mk fields _ => fields

def fragments : Filter → Entries Filter
  | mk _ fragments => fragments

def empty : Filter := mk [] []

def isEmpty (filter : Filter) : Bool := filter.fields.isEmpty && filter.fragments.isEmpty

mutual
/-- Select what either filter selects; the order of first occurrence stays. -/
def merge (filter : Filter) : Filter → Filter
  | mk fields fragments =>
    mk (mergeEntries filter.fields fields) (mergeEntries filter.fragments fragments)

def mergeEntries (held : List (String × Filter)) : List (String × Filter) → List (String × Filter)
  | [] => held
  | (name, child) :: rest =>
    mergeEntries (Entries.upsert name (fun old => merge (old.getD empty) child) held) rest
end

def withField (filter : Filter) (name : String) (child : Filter) : Filter :=
  mk (filter.fields.upsert name fun old => (old.getD empty).merge child) filter.fragments

def withFragment (filter : Filter) (type : String) (child : Filter) : Filter :=
  mk filter.fields (filter.fragments.upsert type fun old => (old.getD empty).merge child)

def field? (filter : Filter) (name : String) : Option Filter := filter.fields.lookup name

def fragment? (filter : Filter) (type : String) : Option Filter := filter.fragments.lookup type

/-- On a value of the named type itself, what is selected on that type is selected plainly. -/
def narrowed (filter : Filter) (type : String) : Filter :=
  match filter.fragment? type with
  | none => filter
  | some own => (mk filter.fields (filter.fragments.erase type)).merge own

mutual
def height : Filter → Nat
  | mk fields fragments => max (entriesHeight fields) (entriesHeight fragments)

def entriesHeight : List (String × Filter) → Nat
  | [] => 0
  | (_, child) :: rest => max (height child + 1) (entriesHeight rest)
end

end Filter
end GraphQLProjections
