/-! References to named types under list and non-null wrappers. -/
namespace GraphQLProjections

inductive TypeRef where
  | named (name : String)
  | list (inner : TypeRef)
  | nonNull (inner : TypeRef)
  deriving DecidableEq, Repr, Inhabited

namespace TypeRef

/-- The name under all wrappers. -/
def innermost : TypeRef → String
  | named name => name
  | list inner | nonNull inner => inner.innermost

/-- A list once a non-null wrapper is taken off. -/
def isList : TypeRef → Bool
  | named _ => false
  | list _ => true
  | nonNull inner => inner.isList

def isNonNull : TypeRef → Bool
  | nonNull _ => true
  | _ => false

/-- Brackets for a list and an exclamation mark for non-null. -/
def text : TypeRef → String
  | named name => name
  | list inner => "[" ++ inner.text ++ "]"
  | nonNull inner => inner.text ++ "!"

end TypeRef
end GraphQLProjections
