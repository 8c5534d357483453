import GraphQLProjections.Literal
import GraphQLProjections.TypeRef

/-! Type definitions: what a schema document declares, before several declarations are merged. -/
namespace GraphQLProjections

structure Directive where
  name : String
  arguments : Entries Literal
  deriving Repr, Inhabited

structure ArgumentDefinition where
  name : String
  type : TypeRef
  defaultValue : Option Literal
  deriving Repr, Inhabited

/-- A field of an object or interface type; `owner` is the type that declares it. -/
structure FieldDefinition where
  name : String
  owner : String
  type : TypeRef
  arguments : List ArgumentDefinition
  directives : List Directive
  deriving Repr, Inhabited

inductive TypeContent where
  | object (fields : List FieldDefinition) (interfaces : List String)
  | interface (fields : List FieldDefinition) (interfaces : List String)
  | union (members : List String)
  | enum (values : List String)
  | scalar
  | input (fields : List ArgumentDefinition)
  deriving Repr, Inhabited

structure TypeDefinition where
  name : String
  content : TypeContent
  directives : List Directive
  deriving Repr, Inhabited

namespace Directive

def stringArgument? (directive : Directive) (argument : String) : Option String :=
  (directive.arguments.lookup argument).bind Literal.string?

def booleanArgument? (directive : Directive) (argument : String) : Option Bool :=
  (directive.arguments.lookup argument).bind Literal.boolean?

end Directive

def carries (directives : List Directive) (name : String) : Bool :=
  directives.any (·.name == name)

/-- The reason of the first `deprecated` directive, or the standard one. -/
def FieldDefinition.deprecation? (field : FieldDefinition) : Option String :=
  (field.directives.find? (·.name == "deprecated")).map fun directive =>
    (directive.stringArgument? "reason").getD "No longer supported"

namespace TypeDefinition

def isObject (type : TypeDefinition) : Bool :=
  match type.content with
  | .object .. => true
  | _ => false

def isInterface (type : TypeDefinition) : Bool :=
  match type.content with
  | .interface .. => true
  | _ => false

def isUnion (type : TypeDefinition) : Bool :=
  match type.content with
  | .union .. => true
  | _ => false

def isScalar (type : TypeDefinition) : Bool :=
  match type.content with
  | .scalar => true
  | _ => false

/-- Leaf types are selected directly and have no projection. -/
def isLeaf (type : TypeDefinition) : Bool :=
  match type.content with
  | .scalar | .enum _ | .input _ => true
  | _ => false

/-- The selectable fields; only objects and interfaces have any. -/
def fields (type : TypeDefinition) : List FieldDefinition :=
  match type.content with
  | .object fields _ | .interface fields _ => fields
  | _ => []

def interfaces (type : TypeDefinition) : List String :=
  match type.content with
  | .object _ interfaces | .interface _ interfaces => interfaces
  | _ => []

end TypeDefinition
end GraphQLProjections
