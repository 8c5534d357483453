import GraphQLProjections.Filter
import GraphQLProjections.Projection.Forest

/-! The traversal of a schema from a root field. Each path gets one node. Without a filter, a field
that leads to a type by the same name as one passed on the way down is linked to the projection
made there, so cycles end; with a filter, only what it selects is projected, and its nesting ends
the way down. -/
namespace GraphQLProjections

structure Traversal where
  schema : Schema
  maxDepth : Option Nat
  deriving Inhabited

/-- A field passed on the way down from the root, the type it leads to, and the path there. -/
structure TrailStep where
  field : String
  type : String
  path : List String
  deriving DecidableEq, Repr, Inhabited

abbrev Descent := Site → TypeDefinition → List TrailStep → Option Filter → Building Unit

/-- The filter below a part of a selection: `none` if the part is not selected. -/
def partScope (scope : Option Filter) (part : Filter → Option Filter) : Option (Option Filter) :=
  match scope with
  | none => some none
  | some filter => (part filter).map some

namespace Traversal

def entitiesSegment : String := "entities"
def entityUnion : String := "_Entity"

def atBound (traversal : Traversal) (site : Site) : Bool :=
  traversal.maxDepth.any (· ≤ site.depth)

def leadsToComposite (traversal : Traversal) (field : FieldDefinition) : Bool :=
  match traversal.schema.target field with
  | .ok (.composite _) => true
  | _ => false

/-- The trail step that a field leading to a type repeats. -/
def passed? (trail : List TrailStep) (field type : String) : Option TrailStep :=
  trail.find? fun step => step.field == field && step.type == type

/-- Where the projection of a field is: where the trail has it, or one segment further. -/
def childPath (site : Site) (field : FieldDefinition) (type : TypeDefinition)
    (trail : List TrailStep) (filter : Option Filter) : List String :=
  match (if filter.isNone then passed? trail field.name type.name else none) with
  | some step => step.path
  | none => site.path ++ [field.name]

def child (descend : Descent) (site : Site) (field : FieldDefinition) (type : TypeDefinition)
    (trail : List TrailStep) (filter : Option Filter) : Building Link := do
  let path := childPath site field type trail filter
  let (name, isNew) ← Building.claim path NameSupply.projectionSuffix
  if isNew then
    let id ← Building.openNode name
    descend ⟨id, name, .sub, some site.id, site.root, site.depth + 1, path⟩ type
      (trail ++ [⟨field.name, type.name, path⟩]) filter
    return ⟨id, name⟩
  else Building.linkTo name

/-- The projection of one concrete type; it has the depth of the projection it refines. -/
def fragment (descend : Descent) (site : Site) (type : TypeDefinition) (trail : List TrailStep)
    (filter : Option Filter) : Building FragmentAccessor := do
  let path := site.path ++ [type.name]
  let (name, isNew) ← Building.claim path NameSupply.projectionSuffix
  if isNew then
    let id ← Building.openNode name
    descend ⟨id, name, .fragment, some site.id, site.root, site.depth, path⟩ type trail filter
    return ⟨type.name, ⟨id, name⟩⟩
  else return ⟨type.name, ← Building.linkTo name⟩

/-- The node that holds the arguments of a leaf field. -/
def argumentWrapper (site : Site) (field : FieldDefinition) : Building Link := do
  let path := site.path ++ [field.name]
  let (name, isNew) ← Building.claim path NameSupply.projectionSuffix
  if isNew then
    let id ← Building.openNode name
    Building.fill
      { id, name, kind := .argumentWrapper, parent := some site.id, root := site.root
        depth := site.depth + 1, path, type := field.type.innermost
        methods := [], fragments := [], truncated := false }
    return ⟨id, name⟩
  else Building.linkTo name

/-- The method of a field. At the depth bound composite fields are left out, and arguments of
leaves stay on the method. -/
def method? (traversal : Traversal) (descend : Descent) (site : Site) (trail : List TrailStep)
    (scope : Option Filter) (field : FieldDefinition) : Building (Option SelectionMethod) := do
  match partScope scope (·.field? field.name) with
  | none => return none
  | some filter =>
    match ← Building.ofExcept (traversal.schema.target field) with
    | .leaf =>
      if field.arguments.isEmpty || traversal.atBound site then return some ⟨field, none⟩
      else return some ⟨field, some (← argumentWrapper site field)⟩
    | .composite type =>
      if traversal.atBound site then return none
      else return some ⟨field, some (← child descend site field type trail filter)⟩

def accessor? (descend : Descent) (site : Site) (trail : List TrailStep) (scope : Option Filter)
    (type : TypeDefinition) : Building (Option FragmentAccessor) := do
  match partScope scope (·.fragment? type.name) with
  | none => return none
  | some filter => return some (← fragment descend site type trail filter)

/-- Some selected field leads to a composite type at the depth bound. -/
def cuts (traversal : Traversal) (site : Site) (scope : Option Filter)
    (type : TypeDefinition) : Bool :=
  traversal.atBound site && type.fields.any fun field =>
    (partScope scope (·.field? field.name)).isSome && traversal.leadsToComposite field

def populateBy (traversal : Traversal) (descend : Descent) : Descent :=
  fun site type trail filter => do
    let scope := filter.map (·.narrowed type.name)
    let methods ← Building.gather (traversal.method? descend site trail scope) type.fields
    let fragments ← Building.gather (accessor? descend site trail scope)
      (traversal.schema.concreteTypes type)
    Building.fill
      { site with
        type := type.name, methods, fragments, truncated := traversal.cuts site scope type }

/-- Populate a site, going at most `bound` levels down. -/
def populate (traversal : Traversal) : Nat → Descent
  | 0 => fun _ type _ _ => throw (.endlessUnion type.name)
  | bound + 1 => traversal.populateBy (traversal.populate bound)

/-- The number of fields of all types: a trail without repetitions is at most as long. -/
def fieldCount (schema : Schema) : Nat :=
  schema.types.foldl (fun total type => total + type.fields.length) 0

/-- Enough levels, unless there is no filter and a union contains itself: each step with a filter
goes into its nesting, and without one each type is passed at most once between two fields of the
trail. -/
def levels (traversal : Traversal) (filter : Option Filter) : Nat :=
  (fieldCount traversal.schema + 1) * (traversal.schema.types.length + 2) +
    (filter.map Filter.height).getD 0

/-- The projection of a root field, named after a path; `none` if the field leads to a leaf. A path
that has its projection already gets no second one. -/
def rootAt (traversal : Traversal) (path : List String) (field : FieldDefinition)
    (filter : Option Filter) : Building (Option NodeId) := do
  match ← Building.ofExcept (traversal.schema.target field) with
  | .leaf => return none
  | .composite type =>
    let (name, isNew) ← Building.claim path NameSupply.rootSuffix
    if isNew then
      let id ← Building.openNode name
      traversal.populate (traversal.levels filter) ⟨id, name, .root, none, id, 0, path⟩ type []
        filter
      return some id
    else return some (← Building.linkTo name).target

def root (traversal : Traversal) (field : FieldDefinition) (filter : Option Filter) :
    Building (Option NodeId) :=
  traversal.rootAt [field.name] field filter

/-- The projection of the entity look-up: a root with one fragment for each entity, or nothing if
there are no entities. -/
def entitiesAt (traversal : Traversal) (path : List String) (entities : List TypeDefinition) :
    Building (Option NodeId) := do
  if entities.isEmpty then return none
  let (name, isNew) ← Building.claim path NameSupply.rootSuffix
  if !isNew then throw (.nameCollision name)
  let id ← Building.openNode name
  let site : Site := ⟨id, name, .root, none, id, 0, path⟩
  let descend := traversal.populate (traversal.levels none)
  let fragments ← Building.gather (accessor? descend site [] none) entities
  Building.fill { site with type := entityUnion, methods := [], fragments, truncated := false }
  return some id

def entities (traversal : Traversal) (entities : List TypeDefinition) :
    Building (Option NodeId) :=
  traversal.entitiesAt [entitiesSegment] entities

end Traversal
end GraphQLProjections
