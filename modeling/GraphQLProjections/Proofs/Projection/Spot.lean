import GraphQLProjections.Projection.Traversal
import GraphQLProjections.Proofs.Schema.WellFormed

/-! What a traversal puts into a projection, apart from names and numbers. A spot is a place with
all that decides what is projected there; it requests further spots, one for each part that needs a
projection of its own. -/
namespace GraphQLProjections

def passedFields (trail : List TrailStep) : List (String × String) :=
  trail.map fun step => (step.field, step.type)

theorem Traversal.passed?_eq_none {trail : List TrailStep} {field type : String} :
    passed? trail field type = none ↔ (field, type) ∉ passedFields trail := by
  simp [passed?, passedFields]

/-- What a projection is opened for. -/
inductive Purpose where
  | type (type : TypeDefinition) (trail : List TrailStep) (filter : Option Filter)
  | arguments (field : FieldDefinition)
  | entities (types : List TypeDefinition)

namespace Purpose

def typeName : Purpose → String
  | type definition _ _ => definition.name
  | arguments field => field.type.innermost
  | entities _ => Traversal.entityUnion

def fields : Purpose → List FieldDefinition
  | type definition _ _ => definition.fields
  | _ => []

def trail : Purpose → List TrailStep
  | type _ trail _ => trail
  | _ => []

def scope : Purpose → Option Filter
  | type definition _ filter => filter.map (·.narrowed definition.name)
  | _ => none

def types (schema : Schema) : Purpose → List TypeDefinition
  | type definition _ _ => schema.concreteTypes definition
  | arguments _ => []
  | entities types => types

def Within (schema : Schema) : Purpose → Prop
  | type definition _ _ => definition ∈ schema.types
  | arguments _ => True
  | entities types => ∀ type ∈ types, type ∈ schema.types

end Purpose

structure Spot where
  kind : ProjectionKind
  depth : Nat
  path : List String
  purpose : Purpose

namespace Spot

/-- A root projection and a projection below a root are named by different suffixes. -/
def suffix (spot : Spot) : String :=
  if spot.kind = .root then NameSupply.rootSuffix else NameSupply.projectionSuffix

theorem suffix_ne {suffix : String} (notRoot : suffix ≠ NameSupply.rootSuffix)
    (notProjection : suffix ≠ NameSupply.projectionSuffix) (spot : Spot) : spot.suffix ≠ suffix := by
  unfold Spot.suffix
  split
  · exact notRoot.symm
  · exact notProjection.symm

def fieldPath (spot : Spot) (field : FieldDefinition) (type : TypeDefinition)
    (filter : Option Filter) : List String :=
  match (if filter.isNone then Traversal.passed? spot.purpose.trail field.name type.name
    else none) with
  | some step => step.path
  | none => spot.path ++ [field.name]

/-- A field is projected one segment further, or at a place that the trail has passed. -/
theorem fieldPath_cases (spot : Spot) (field : FieldDefinition) (type : TypeDefinition)
    (filter : Option Filter) : spot.fieldPath field type filter = spot.path ++ [field.name] ∨
      ∃ step ∈ spot.purpose.trail, spot.fieldPath field type filter = step.path := by
  unfold fieldPath
  split
  next step passed =>
    split at passed
    · exact .inr ⟨step, List.mem_of_find?_eq_some passed, rfl⟩
    · cases passed
  next => exact .inl rfl

end Spot

namespace Traversal

variable (traversal : Traversal)

def boundsAt (depth : Nat) : Bool := traversal.maxDepth.any (· ≤ depth)

def requestOfField (spot : Spot) (field : FieldDefinition) : Option Spot :=
  match partScope spot.purpose.scope (·.field? field.name) with
  | none => none
  | some filter =>
    match traversal.schema.target field with
    | .error _ => none
    | .ok .leaf =>
      if field.arguments.isEmpty || traversal.boundsAt spot.depth then none
      else some ⟨.argumentWrapper, spot.depth + 1, spot.path ++ [field.name], .arguments field⟩
    | .ok (.composite type) =>
      if traversal.boundsAt spot.depth then none
      else
        let path := spot.fieldPath field type filter
        some ⟨.sub, spot.depth + 1, path,
          .type type (spot.purpose.trail ++ [⟨field.name, type.name, path⟩]) filter⟩

def requestOfType (spot : Spot) (type : TypeDefinition) : Option Spot :=
  (partScope spot.purpose.scope (·.fragment? type.name)).map fun filter =>
    ⟨.fragment, spot.depth, spot.path ++ [type.name], .type type spot.purpose.trail filter⟩

/-- All that a spot requests, in the order in which it is opened. -/
def requests (spot : Spot) : List Spot :=
  spot.purpose.fields.filterMap (traversal.requestOfField spot) ++
    (spot.purpose.types traversal.schema).filterMap (requestOfType spot)

/-- A selected field has a method, unless it is composite and at the depth bound. -/
def keepsField (spot : Spot) (field : FieldDefinition) : Bool :=
  (partScope spot.purpose.scope (·.field? field.name)).isSome &&
    match traversal.schema.target field with
    | .error _ => false
    | .ok .leaf => true
    | .ok (.composite _) => !traversal.boundsAt spot.depth

def methodAt (link : List String → Option Link) (spot : Spot) (field : FieldDefinition) :
    Option SelectionMethod :=
  if traversal.keepsField spot field then
    some ⟨field, (traversal.requestOfField spot field).bind fun request => link request.path⟩
  else none

def accessorAt (link : List String → Option Link) (spot : Spot) (type : TypeDefinition) :
    Option FragmentAccessor :=
  (requestOfType spot type).bind fun request => (link request.path).map (⟨type.name, ·⟩)

def cutsAt (spot : Spot) : Bool :=
  traversal.boundsAt spot.depth && spot.purpose.fields.any fun field =>
    (partScope spot.purpose.scope (·.field? field.name)).isSome && traversal.leadsToComposite field

def Resolves (spot : Spot) : Prop :=
  ∀ field ∈ spot.purpose.fields, (partScope spot.purpose.scope (·.field? field.name)).isSome →
    ∃ target, traversal.schema.target field = .ok target

variable {traversal} {spot request : Spot}

theorem methodAt_eq_some {link : List String → Option Link} {field : FieldDefinition}
    {method : SelectionMethod} :
    traversal.methodAt link spot field = some method ↔ traversal.keepsField spot field = true ∧
      method = ⟨field, (traversal.requestOfField spot field).bind fun request =>
        link request.path⟩ := by
  unfold methodAt
  split
  next kept => simp [kept, eq_comm]
  next dropped => simp [dropped]

theorem mem_requests : request ∈ traversal.requests spot ↔
    (∃ field ∈ spot.purpose.fields, traversal.requestOfField spot field = some request) ∨
      ∃ type ∈ spot.purpose.types traversal.schema, requestOfType spot type = some request := by
  simp only [requests, List.mem_append, List.mem_filterMap]

/-- All that a field may request: the place of its arguments, or that of its type. -/
theorem requestOfField_eq_some {field : FieldDefinition} :
    traversal.requestOfField spot field = some request ↔
      ∃ filter, partScope spot.purpose.scope (·.field? field.name) = some filter ∧
        traversal.boundsAt spot.depth = false ∧
        (traversal.schema.target field = .ok .leaf ∧ field.arguments ≠ [] ∧
            request = ⟨.argumentWrapper, spot.depth + 1, spot.path ++ [field.name],
              .arguments field⟩ ∨
          ∃ type, traversal.schema.target field = .ok (.composite type) ∧
            request = ⟨.sub, spot.depth + 1, spot.fieldPath field type filter,
              .type type (spot.purpose.trail ++
                [⟨field.name, type.name, spot.fieldPath field type filter⟩]) filter⟩) := by
  unfold requestOfField
  cases selected : partScope spot.purpose.scope (·.field? field.name) with
  | none => simp
  | some filter =>
    cases leads : traversal.schema.target field with
    | error fault => simp
    | ok target =>
      cases bound : traversal.boundsAt spot.depth with
      | true => cases target <;> simp
      | false =>
        cases target with
        | leaf => cases arguments : field.arguments <;> simp [eq_comm]
        | composite type => simp [eq_comm]

end Traversal

namespace Schema

variable {schema : Schema}

theorem mem_types_of_type? {name : String} {type : TypeDefinition}
    (found : schema.type? name = some type) : type ∈ schema.types :=
  List.mem_of_find?_eq_some found

theorem name_of_type? {name : String} {type : TypeDefinition}
    (found : schema.type? name = some type) : type.name = name := by
  have same := List.find?_some (p := fun type : TypeDefinition => type.name == name) found
  exact eq_of_beq same

def compositeTarget? (schema : Schema) (field : FieldDefinition) : Option TypeDefinition :=
  match schema.target field with
  | .ok (.composite type) => some type
  | _ => none

theorem compositeTarget?_eq_some {field : FieldDefinition} {type : TypeDefinition} :
    schema.compositeTarget? field = some type ↔ schema.target field = .ok (.composite type) := by
  unfold compositeTarget?
  split
  next other leads => simp [leads]
  next other => exact iff_of_false nofun (other type)

theorem target_eq_composite {field : FieldDefinition} {type : TypeDefinition} :
    schema.target field = .ok (.composite type) ↔
      schema.mapped.contains field.type.innermost = false ∧
        schema.type? field.type.innermost = some type ∧ type.isLeaf = false := by
  simp only [target]
  cases mapped : schema.mapped.contains field.type.innermost with
  | true => simp
  | false =>
    cases found : schema.type? field.type.innermost with
    | none =>
      simp only [Bool.false_eq_true, if_false]
      split <;> simp
    | some declared =>
      simp only [Bool.false_eq_true, if_false, Option.some.injEq, true_and]
      cases leaf : declared.isLeaf with
      | true =>
        apply iff_of_false (fun leads => nomatch leads)
        rintro ⟨rfl, composite⟩
        cases leaf.symm.trans composite
      | false =>
        constructor
        · rintro ⟨⟩
          exact ⟨rfl, leaf⟩
        · rintro ⟨rfl, -⟩
          rfl

/-- A field leads nowhere only if its type is unknown. -/
theorem target_eq_error {field : FieldDefinition} {fault : Error}
    (fails : schema.target field = .error fault) :
    fault = .unresolvedType field.owner field.name field.type.innermost := by
  simp only [target] at fails
  split at fails
  · cases fails
  · split at fails
    · cases fails
    · split at fails
      · cases fails
      · exact (Except.error.inj fails).symm

theorem type?_of_target {field : FieldDefinition} {type : TypeDefinition}
    (leads : schema.target field = .ok (.composite type)) :
    schema.type? field.type.innermost = some type := (target_eq_composite.mp leads).2.1

theorem mem_types_of_target {field : FieldDefinition} {type : TypeDefinition}
    (leads : schema.target field = .ok (.composite type)) : type ∈ schema.types :=
  mem_types_of_type? (type?_of_target leads)

theorem mem_types_of_concrete {type concrete : TypeDefinition}
    (member : concrete ∈ schema.concreteTypes type) : concrete ∈ schema.types := by
  unfold concreteTypes at member
  split at member
  · exact (List.mem_filter.mp member).1
  · split at member
    · unfold members at member
      split at member
      · obtain ⟨name, -, found⟩ := List.mem_filterMap.mp member
        exact mem_types_of_type? found
      · simp at member
    · simp at member

theorem WellFormed.eq_of_name (wellFormed : schema.WellFormed) {type other : TypeDefinition}
    (member : type ∈ schema.types) (member' : other ∈ schema.types)
    (same : type.name = other.name) : type = other :=
  List.inj_on_of_nodup_map wellFormed.distinct member member' same

theorem WellFormed.plain_type (wellFormed : schema.WellFormed) {type : TypeDefinition}
    (member : type ∈ schema.types) : IsPlain type.name :=
  (wellFormed.named type member).name.isPlain

theorem WellFormed.plain_field (wellFormed : schema.WellFormed) {type : TypeDefinition}
    (member : type ∈ schema.types) {field : FieldDefinition} (declared : field ∈ type.fields) :
    IsPlain field.name :=
  ((wellFormed.named type member).fields field declared).name.isPlain

end Schema

namespace Spot

/-- The spot is about types of the schema, at a plain path, and so is the trail that leads to it. -/
structure Grounded (schema : Schema) (spot : Spot) : Prop where
  path : IsPlainPath spot.path
  trail : ∀ step ∈ spot.purpose.trail, IsPlainPath step.path
  within : spot.purpose.Within schema

namespace Grounded

variable {schema : Schema} {spot : Spot}

theorem declaring (grounded : spot.Grounded schema) {field : FieldDefinition}
    (member : field ∈ spot.purpose.fields) : ∃ type ∈ schema.types, field ∈ type.fields := by
  have within := grounded.within
  cases purpose : spot.purpose with
  | type definition _ _ =>
    rw [purpose] at member within
    exact ⟨definition, within, member⟩
  | _ => simp [purpose, Purpose.fields] at member

theorem plain_field (grounded : spot.Grounded schema) (wellFormed : schema.WellFormed)
    {field : FieldDefinition} (member : field ∈ spot.purpose.fields) : IsPlain field.name := by
  obtain ⟨type, known, declared⟩ := grounded.declaring member
  exact wellFormed.plain_field known declared

theorem mem_types (grounded : spot.Grounded schema) {type : TypeDefinition}
    (member : type ∈ spot.purpose.types schema) : type ∈ schema.types := by
  have within := grounded.within
  cases purpose : spot.purpose with
  | type definition _ _ =>
    rw [purpose] at member
    exact Schema.mem_types_of_concrete member
  | arguments => simp [purpose, Purpose.types] at member
  | entities types =>
    rw [purpose] at member within
    exact within type member

theorem fieldPath (grounded : spot.Grounded schema) (wellFormed : schema.WellFormed)
    {field : FieldDefinition} (member : field ∈ spot.purpose.fields) (type : TypeDefinition)
    (filter : Option Filter) : IsPlainPath (spot.fieldPath field type filter) := by
  rcases spot.fieldPath_cases field type filter with further | ⟨step, passed, back⟩
  · rw [further]
    exact grounded.path.append (grounded.plain_field wellFormed member)
  · rw [back]
    exact grounded.trail step passed

variable {traversal : Traversal}

theorem requestOfField (grounded : spot.Grounded traversal.schema)
    (wellFormed : traversal.schema.WellFormed) {field : FieldDefinition} {request : Spot}
    (member : field ∈ spot.purpose.fields)
    (requested : traversal.requestOfField spot field = some request) :
    request.Grounded traversal.schema := by
  obtain ⟨filter, -, -, ⟨-, -, rfl⟩ | ⟨type, leads, rfl⟩⟩ :=
    Traversal.requestOfField_eq_some.mp requested
  · exact ⟨grounded.path.append (grounded.plain_field wellFormed member), by simp [Purpose.trail],
      trivial⟩
  · have path := grounded.fieldPath wellFormed member type filter
    refine ⟨path, ?_, Schema.mem_types_of_target leads⟩
    intro step inside
    rcases List.mem_append.mp inside with inside | inside
    · exact grounded.trail step inside
    · obtain rfl := List.mem_singleton.mp inside
      exact path

theorem requestOfType (grounded : spot.Grounded schema) (wellFormed : schema.WellFormed)
    {type : TypeDefinition} {request : Spot} (member : type ∈ spot.purpose.types schema)
    (requested : Traversal.requestOfType spot type = some request) : request.Grounded schema := by
  have known := grounded.mem_types member
  obtain ⟨filter, -, rfl⟩ := Option.map_eq_some_iff.mp requested
  exact ⟨grounded.path.append (wellFormed.plain_type known), grounded.trail, known⟩

/-- What a grounded spot requests is grounded. -/
theorem request (grounded : spot.Grounded traversal.schema)
    (wellFormed : traversal.schema.WellFormed) {request : Spot}
    (member : request ∈ traversal.requests spot) : request.Grounded traversal.schema := by
  rcases Traversal.mem_requests.mp member with ⟨field, inside, requested⟩ | ⟨type, inside, requested⟩
  · exact grounded.requestOfField wellFormed inside requested
  · exact grounded.requestOfType wellFormed inside requested

end Grounded
end Spot

namespace Traversal

variable {traversal : Traversal} {spot request : Spot}

/-- A request is for a place one segment further, or for one that the trail has passed. -/
theorem path_of_mem_requests (member : request ∈ traversal.requests spot) :
    (∃ segment, request.path = spot.path ++ [segment]) ∨
      ∃ step ∈ spot.purpose.trail, request.path = step.path := by
  rcases mem_requests.mp member with ⟨field, -, requested⟩ | ⟨type, -, requested⟩
  · obtain ⟨filter, -, -, ⟨-, -, rfl⟩ | ⟨type, -, rfl⟩⟩ := requestOfField_eq_some.mp requested
    · exact .inl ⟨field.name, rfl⟩
    · exact (spot.fieldPath_cases field type filter).imp_left fun further => ⟨field.name, further⟩
  · obtain ⟨filter, -, rfl⟩ := Option.map_eq_some_iff.mp requested
    exact .inl ⟨type.name, rfl⟩

/-- A request has the trail of its spot, or none, or that trail with itself at the end. -/
theorem trail_of_mem_requests (member : request ∈ traversal.requests spot) {step : TrailStep}
    (passed : step ∈ request.purpose.trail) :
    step ∈ spot.purpose.trail ∨ request.kind = .sub ∧ step.path = request.path ∧
      ∃ type filter, request.purpose = .type type (spot.purpose.trail ++ [step]) filter ∧
        step.type = type.name := by
  rcases mem_requests.mp member with ⟨field, -, requested⟩ | ⟨type, -, requested⟩
  · obtain ⟨filter, -, -, ⟨-, -, rfl⟩ | ⟨type, -, rfl⟩⟩ := requestOfField_eq_some.mp requested
    · exact absurd passed List.not_mem_nil
    · rcases List.mem_append.mp passed with passed | passed
      · exact .inl passed
      · obtain rfl := List.mem_singleton.mp passed
        exact .inr ⟨rfl, rfl, type, filter, rfl, rfl⟩
  · obtain ⟨filter, -, rfl⟩ := Option.map_eq_some_iff.mp requested
    exact .inl passed

/-- No request is for a root. -/
theorem kind_of_mem_requests (member : request ∈ traversal.requests spot) :
    request.kind ≠ .root := by
  rcases mem_requests.mp member with ⟨field, -, requested⟩ | ⟨type, -, requested⟩
  · obtain ⟨filter, -, -, ⟨-, -, rfl⟩ | ⟨type, -, rfl⟩⟩ := requestOfField_eq_some.mp requested
    · simp
    · simp
  · obtain ⟨filter, -, rfl⟩ := Option.map_eq_some_iff.mp requested
    simp

theorem keepsField_of_request {field : FieldDefinition}
    (requested : traversal.requestOfField spot field = some request) :
    traversal.keepsField spot field = true := by
  obtain ⟨filter, selected, bound, ⟨leads, -⟩ | ⟨type, leads, -⟩⟩ :=
    requestOfField_eq_some.mp requested
  · simp [keepsField, selected, leads]
  · simp [keepsField, selected, leads, bound]

theorem suffix_of_mem_requests (member : request ∈ traversal.requests spot) :
    request.suffix = NameSupply.projectionSuffix :=
  if_neg (kind_of_mem_requests member)

end Traversal

namespace Spot

variable {traversal : Traversal} {spot : Spot}

/-- Nothing narrows what is projected at a spot, and each purpose has a kind of its own. -/
def Unfiltered (spot : Spot) : Prop :=
  match spot.purpose with
  | .type _ _ filter => filter = none
  | .arguments _ => spot.kind = .argumentWrapper
  | .entities _ => spot.kind = .root

theorem Unfiltered.scope (unfiltered : spot.Unfiltered) : spot.purpose.scope = none := by
  unfold Unfiltered at unfiltered
  split at unfiltered
  next purpose =>
    rw [purpose, unfiltered]
    rfl
  next purpose =>
    rw [purpose]
    rfl
  next purpose =>
    rw [purpose]
    rfl

/-- Filters come from the roots only. -/
theorem Unfiltered.request (unfiltered : spot.Unfiltered) {request : Spot}
    (requested : request ∈ traversal.requests spot) : request.Unfiltered := by
  rcases Traversal.mem_requests.mp requested with ⟨field, -, made⟩ | ⟨type, -, made⟩
  · obtain ⟨filter, selected, -, ⟨-, -, rfl⟩ | ⟨type, -, rfl⟩⟩ :=
      Traversal.requestOfField_eq_some.mp made
    · rfl
    · rw [unfiltered.scope] at selected
      exact (Option.some.inj selected).symm
  · obtain ⟨filter, selected, rfl⟩ := Option.map_eq_some_iff.mp made
    rw [unfiltered.scope] at selected
    exact (Option.some.inj selected).symm

end Spot

end GraphQLProjections
