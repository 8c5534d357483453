import Std.Data.ExtTreeSet
import GraphQLProjections.Constants
import GraphQLProjections.Operation.Selected
import GraphQLProjections.Projection.Traversal
import GraphQLProjections.Representation

/-! One generation run: projections and operations for every root field, then the look-up of
entities with their representations, then constant tables. All names come from one supply, so they
are unique over the whole output. -/
namespace GraphQLProjections

structure OperationDescriptor where
  name : String
  kind : OperationKind
  field : String
  arguments : List ArgumentDefinition
  projectionRoot : Option String
  deriving Repr, Inhabited

/-- All that a run produces, in order of discovery. -/
structure Output where
  operations : List OperationDescriptor
  projections : List ProjectionNode
  representations : List Representation
  constants : List ConstantTable
  deriving Repr, Inhabited

namespace Output

def projection? (output : Output) (name : String) : Option ProjectionNode :=
  output.projections.find? (·.name == name)

def representation? (output : Output) (name : String) : Option Representation :=
  output.representations.find? (·.name == name)

def projectionNames (output : Output) : List String := output.projections.map (·.name)

def representationNames (output : Output) : List String := output.representations.map (·.name)

def classNames (output : Output) : List String :=
  output.projectionNames ++ output.representationNames ++ output.operations.map (·.name)

/-- The first name that is in a set or occurs a second time. -/
def repeatedName? (seen : Std.ExtTreeSet String) : List String → Option String
  | [] => none
  | name :: rest => if seen.contains name then some name else repeatedName? (seen.insert name) rest

end Output

namespace Generation

open Building

def entitiesField : String := "_entities"
def federationSegment : String := "federation"

def reserveNew (path : List String) (suffix : String) : Building String := do
  let (name, isNew) ← claim path suffix
  if isNew then return name else throw (.nameCollision name)

/-- A root projection or an operation at the path has its name reserved. -/
def isTaken (path : List String) : Building Bool := do
  let rootName ← allocate path NameSupply.rootSuffix
  let queryName ← allocate path NameSupply.querySuffix
  let names := (← get).names
  return names.isReserved rootName || names.isReserved queryName

/-- The path of a root field: its name, after the kind of operation if another kind has it. -/
def rootPath (kind : OperationKind) (field : String) : Building (List String) := do
  if kind = .query then return [field]
  else if ← isTaken [field] then return [kind.text, field]
  else return [field]

def entitiesPath : Building (List String) := do
  if ← isTaken [Traversal.entitiesSegment] then
    return [federationSegment, Traversal.entitiesSegment]
  else return [Traversal.entitiesSegment]

def nameOfNode (id : Option NodeId) : Building (Option String) := do
  let forest := (← get).forest
  return (id.bind forest.node?).map (·.name)

def rootOperation (traversal : Traversal) (kind : OperationKind) (filter : Option Filter)
    (field : FieldDefinition) : Building OperationDescriptor := do
  let path ← rootPath kind field.name
  let root ← traversal.rootAt path field filter
  let projectionRoot ← nameOfNode root
  let name ← reserveNew path NameSupply.querySuffix
  return ⟨name, kind, field.name, field.arguments, projectionRoot⟩

def unknownRoot? (selected : SelectedRoots) (kind : OperationKind) (type : TypeDefinition) :
    Option String :=
  (selected.rootFields kind).find? fun name => !type.fields.any (·.name == name)

def checkRoots (selected : Option SelectedRoots) (kind : OperationKind) (type : TypeDefinition) :
    Building Unit :=
  match selected.bind (unknownRoot? · kind type) with
  | some name => throw (.unknownOperationField type.name name)
  | none => pure ()

/-- The operations of one root type; with selected roots, of the selected fields only. -/
def rootTypeOperations (traversal : Traversal) (selected : Option SelectedRoots)
    (kind : OperationKind) (type : TypeDefinition) : Building (List OperationDescriptor) := do
  checkRoots selected kind type
  gather
    (fun field => do
      match selected with
      | none => return some (← rootOperation traversal kind none field)
      | some selected =>
        match selected.filter? kind field.name with
        | none => return none
        | some filter => return some (← rootOperation traversal kind (some filter) field))
    type.fields

def includes (settings : Settings) : OperationKind → Bool
  | .query => settings.queries
  | .mutation => settings.mutations
  | .subscription => settings.subscriptions

def rootOperations (settings : Settings) (traversal : Traversal)
    (selected : Option SelectedRoots) : List (OperationKind × TypeDefinition) →
    Building (List OperationDescriptor)
  | [] => pure []
  | (kind, type) :: rest => do
    if includes settings kind then
      let first ← rootTypeOperations traversal selected kind type
      let others ← rootOperations settings traversal selected rest
      return first ++ others
    else rootOperations settings traversal selected rest

/-- The representations of entities, named from the supply of the workspace. -/
def entityRepresentations (schema : Schema) (entities : List TypeDefinition) :
    Building (List Representation) := do
  let workspace ← get
  let (result, catalogue) :=
    (Cataloguing.representAll schema entities).outcome ⟨workspace.names, #[]⟩
  set { workspace with names := catalogue.names }
  Building.ofExcept result
  return catalogue.representations.toList

def representationsArgument : ArgumentDefinition :=
  ⟨"representations", .nonNull (.list (.nonNull (.named "_Any"))), none⟩

def entityOperations (settings : Settings) (traversal : Traversal) :
    Building (List OperationDescriptor × List Representation) := do
  let entities := traversal.schema.entities
  if settings.skipEntities || entities.isEmpty then return ([], [])
  let path ← entitiesPath
  let root ← traversal.entitiesAt path entities
  let projectionRoot ← nameOfNode root
  let representations ← entityRepresentations traversal.schema entities
  let name ← reserveNew path NameSupply.querySuffix
  return ([⟨name, .query, entitiesField, [representationsArgument], projectionRoot⟩],
    representations)

/-- The selected roots to keep to, if the settings ask for them. -/
def scope (settings : Settings) (selected : Option SelectedRoots) :
    Except Error (Option SelectedRoots) :=
  if settings.definedOnly then
    match selected with
    | some selected => .ok (some selected)
    | none => .error (.settings .noOperationDocument)
  else .ok none

def run (settings : Settings) (schema : Schema) (selected : Option SelectedRoots) :
    Building (List OperationDescriptor × List Representation) := do
  let traversal : Traversal := ⟨schema, settings.maxDepth⟩
  let operations ← rootOperations settings traversal selected schema.rootTypes
  let (entityOperations, representations) ← entityOperations settings traversal
  return (operations ++ entityOperations, representations)

/-- Generate for a schema. The settings are taken as valid. -/
def generate (settings : Settings) (schema : Schema) (selected : Option SelectedRoots) :
    Except Error Output := do
  let selected ← scope settings selected
  let (result, workspace) := (run settings schema selected).outcome (.empty settings.shortNames)
  let (operations, representations) ← result
  let output : Output :=
    ⟨operations, workspace.forest.nodes, representations, ConstantTable.ofSchema schema⟩
  match Output.repeatedName? ∅ output.classNames with
  | some name => throw (.nameCollision name)
  | none => return output

/-- Read documents and generate. Without operation documents there are no selected roots. -/
def generateFromDocuments (settings : Settings) (schemas queries : List String) :
    Except Error Output := do
  let schema ← Schema.ofDocuments schemas settings
  let selected ← if queries.isEmpty then pure none else some <$> SelectedRoots.ofDocuments queries
  generate settings schema selected

end Generation
end GraphQLProjections
