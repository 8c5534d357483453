import GraphQLProjections.NameSupply
import GraphQLProjections.Schema.Basic

/-! Projections: the selection classes of a generated client. Each node projects one type at one
path below a root field, and links to other nodes by their number and name. -/
namespace GraphQLProjections

/-- Nodes are numbered in the order of their discovery. -/
abbrev NodeId := Nat

inductive ProjectionKind where
  /-- The type of a root field. -/
  | root
  /-- The composite type of a field of another projection. -/
  | sub
  /-- One implementer or member of a projected type. -/
  | fragment
  /-- The arguments of a leaf field; it selects nothing. -/
  | argumentWrapper
  deriving DecidableEq, Repr, Inhabited

inductive SelectionVariant where
  | plain
  | withArguments
  | withVariableReferences
  deriving DecidableEq, Repr, Inhabited

structure Link where
  target : NodeId
  name : String
  deriving DecidableEq, Repr, Inhabited

/-- The method that selects a field; a leaf that takes no arguments needs no further node. -/
structure SelectionMethod where
  field : FieldDefinition
  link : Option Link
  deriving Repr, Inhabited

structure FragmentAccessor where
  type : String
  link : Link
  deriving DecidableEq, Repr, Inhabited

/-- Where a projection stands. `root` is the first node of its tree. -/
structure Site where
  id : NodeId
  name : String
  kind : ProjectionKind
  parent : Option NodeId
  root : NodeId
  depth : Nat
  path : List String
  deriving DecidableEq, Repr, Inhabited

structure ProjectionNode extends Site where
  /-- The projected type. -/
  type : String
  methods : List SelectionMethod
  fragments : List FragmentAccessor
  /-- Object selections were cut by the depth bound. -/
  truncated : Bool
  deriving Repr, Inhabited

namespace SelectionMethod

def isScalar (method : SelectionMethod) : Bool := method.link.isNone

/-- Arguments can be given by value and by reference to variables. -/
def variants (method : SelectionMethod) : List SelectionVariant :=
  if method.field.arguments.isEmpty then [.plain]
  else [.plain, .withArguments, .withVariableReferences]

end SelectionMethod

def FragmentAccessor.methodName (accessor : FragmentAccessor) : String :=
  "on" ++ Text.capitalized accessor.type

namespace ProjectionNode

def isRoot (node : ProjectionNode) : Bool := node.kind == .root

def method? (node : ProjectionNode) (field : String) : Option SelectionMethod :=
  node.methods.find? (·.field.name == field)

def methodNames (node : ProjectionNode) : List String := node.methods.map (·.field.name)

def fragmentNames (node : ProjectionNode) : List String :=
  node.fragments.map FragmentAccessor.methodName

end ProjectionNode
end GraphQLProjections
