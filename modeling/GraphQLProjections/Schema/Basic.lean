import GraphQLProjections.Schema.Document
import GraphQLProjections.Schema.Merge
import GraphQLProjections.Settings

/-! A schema: the merged types of all documents without what the skip directive drops, and the
questions a traversal asks of it. -/
namespace GraphQLProjections

inductive OperationKind where
  | query
  | mutation
  | subscription
  deriving DecidableEq, Repr, Inhabited

def OperationKind.text : OperationKind → String
  | .query => "query"
  | .mutation => "mutation"
  | .subscription => "subscription"

/-- Types are in order of declaration and have distinct names. -/
structure Schema where
  types : List TypeDefinition
  /-- The names of dropped types. -/
  skipped : List String
  /-- The names that count as scalars by the settings. -/
  mapped : List String
  queryType : String
  mutationType : String
  subscriptionType : String
  deriving Repr, Inhabited

/-- What the type of a field leads to: nothing to select, or a type to project. -/
inductive FieldTarget where
  | leaf
  | composite (type : TypeDefinition)
  deriving Repr, Inhabited

namespace Schema

def builtinScalars : List String := ["String", "Int", "Float", "Boolean", "ID"]

def definedTypes (declarations : List Declaration) : List TypeDefinition :=
  declarations.filterMap fun
    | .type definition => some definition
    | _ => none

def extensions (declarations : List Declaration) : List TypeDefinition :=
  declarations.filterMap fun
    | .extension addition => some addition
    | _ => none

def rootBlocks (declarations : List Declaration) : List RootNames :=
  declarations.filterMap fun
    | .roots names => some names
    | _ => none

/-- All types: definitions first, then extensions in order. -/
def mergedTypes (declarations : List Declaration) : List TypeDefinition :=
  (extensions declarations).foldl (fun types addition => addition.applyExtension types)
    ((definedTypes declarations).foldl TypeDefinition.declare [])

/-- The last block that names a root decides. -/
def rootName (declarations : List Declaration) (root : RootNames → Option String)
    (standard : String) : String :=
  ((rootBlocks declarations).reverse.findSome? root).getD standard

def skippedNames (skipDirective : String) (types : List TypeDefinition) : List String :=
  (types.filter fun type => carries type.directives skipDirective).map (·.name)

def keepsField (skipDirective : String) (skipped : List String) (field : FieldDefinition) : Bool :=
  !carries field.directives skipDirective && !skipped.contains field.type.innermost

def keptTypes (skipDirective : String) (types : List TypeDefinition) : List TypeDefinition :=
  let skipped := skippedNames skipDirective types
  (types.filter fun type => !skipped.contains type.name).map fun type =>
    type.restricted (keepsField skipDirective skipped) (!skipped.contains ·)

def assemble (declarations : List Declaration) (settings : Settings) : Schema :=
  let types := mergedTypes declarations
  { types := keptTypes settings.skipDirective types
    skipped := skippedNames settings.skipDirective types
    mapped := settings.typeMapping.names
    queryType := rootName declarations (·.query) "Query"
    mutationType := rootName declarations (·.mutation) "Mutation"
    subscriptionType := rootName declarations (·.subscription) "Subscription" }

def readDocument (text : String) : Except Error (List Declaration) :=
  match Declaration.read text with
  | .ok declarations => .ok declarations
  | .error position => .error (.schemaSyntax position)

def ofDocuments (texts : List String) (settings : Settings) : Except Error Schema := do
  let documents ← texts.mapM readDocument
  return assemble documents.flatten settings

def type? (schema : Schema) (name : String) : Option TypeDefinition :=
  schema.types.find? (·.name == name)

def isSkipped (schema : Schema) (name : String) : Bool := schema.skipped.contains name

def isKnownScalar (schema : Schema) (name : String) : Bool :=
  builtinScalars.contains name || schema.mapped.contains name ||
    (schema.type? name).any (·.isScalar)

/-- What a field leads to. Mapped names are leaves whatever they are declared as; an unknown name
that is no scalar is an error. -/
def target (schema : Schema) (field : FieldDefinition) : Except Error FieldTarget :=
  let name := field.type.innermost
  if schema.mapped.contains name then .ok .leaf
  else
    match schema.type? name with
    | some type => .ok (if type.isLeaf then .leaf else .composite type)
    | none =>
      if schema.isKnownScalar name then .ok .leaf
      else .error (.unresolvedType field.owner field.name name)

def implementers (schema : Schema) (interface : String) : List TypeDefinition :=
  schema.types.filter fun type => type.isObject && type.interfaces.contains interface

def members (schema : Schema) (union : String) : List TypeDefinition :=
  match (schema.type? union).map TypeDefinition.content with
  | some (TypeContent.union names) => names.filterMap schema.type?
  | _ => []

/-- The types a fragment on a value of the type may name: implementers or members. -/
def concreteTypes (schema : Schema) (type : TypeDefinition) : List TypeDefinition :=
  if type.isInterface then schema.implementers type.name
  else if type.isUnion then schema.members type.name
  else []

def entities (schema : Schema) : List TypeDefinition :=
  schema.types.filter fun type =>
    (type.isObject || type.isInterface) && carries type.directives "key"

def rootTypeName (schema : Schema) : OperationKind → String
  | .query => schema.queryType
  | .mutation => schema.mutationType
  | .subscription => schema.subscriptionType

/-- The root type of a kind of operation, if it is an object type of the schema. -/
def rootType? (schema : Schema) (kind : OperationKind) : Option TypeDefinition :=
  (schema.type? (schema.rootTypeName kind)).filter (·.isObject)

def rootTypes (schema : Schema) : List (OperationKind × TypeDefinition) :=
  [OperationKind.query, .mutation, .subscription].filterMap fun kind =>
    (schema.rootType? kind).map (kind, ·)

end Schema
end GraphQLProjections
