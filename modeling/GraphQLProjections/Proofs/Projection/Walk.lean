import GraphQLProjections.Proofs.Filter
import GraphQLProjections.Proofs.Projection.Tree

/-! Walks through a schema and through the projections of a root field. Without a filter and a
depth bound the projections realise every walk exactly when no field takes the place of a fragment
of another type. -/
namespace GraphQLProjections

def ProjectionNode.link? (node : ProjectionNode) : SelectionStep → Option Link
  | .field name => (node.method? name).bind (·.link)
  | .fragment type => (node.fragments.find? (·.type == type)).map (·.link)

def Forest.follow (forest : Forest) : NodeId → List SelectionStep → Option NodeId
  | id, [] => some id
  | id, step :: rest =>
    ((forest.node? id).bind (·.link? step)).bind fun link => forest.follow link.target rest

theorem Forest.follow_append (forest : Forest) (id : NodeId) (steps rest : List SelectionStep) :
    forest.follow id (steps ++ rest) =
      (forest.follow id steps).bind fun last => forest.follow last rest := by
  induction steps generalizing id with
  | nil => rfl
  | cons step others ih =>
    simp only [List.cons_append, Forest.follow, Option.bind_assoc, ih]

namespace Schema

inductive Leads (schema : Schema) (type : TypeDefinition) : SelectionStep → TypeDefinition → Prop
  | field {field : FieldDefinition} {next : TypeDefinition} (declared : field ∈ type.fields)
      (target : schema.target field = .ok (.composite next)) :
      schema.Leads type (.field field.name) next
  | fragment {concrete : TypeDefinition} (member : concrete ∈ schema.concreteTypes type) :
      schema.Leads type (.fragment concrete.name) concrete

inductive Walks (schema : Schema) :
    TypeDefinition → List SelectionStep → TypeDefinition → Prop
  | nil {type : TypeDefinition} : schema.Walks type [] type
  | cons {type next last : TypeDefinition} {step : SelectionStep} {rest : List SelectionStep}
      (first : schema.Leads type step next) (others : schema.Walks next rest last) :
      schema.Walks type (step :: rest) last

theorem Walks.append {schema : Schema} {type middle last : TypeDefinition}
    {steps rest : List SelectionStep} (walks : schema.Walks type steps middle)
    (others : schema.Walks middle rest last) : schema.Walks type (steps ++ rest) last := by
  induction walks with
  | nil => exact others
  | cons first _ ih => exact .cons first (ih others)

theorem Walks.single {schema : Schema} {type next : TypeDefinition} {step : SelectionStep}
    (leads : schema.Leads type step next) : schema.Walks type [step] next := .cons leads .nil

/-- A field has a projection of its own below a type, given the fields passed before with the names
of the types they led to. -/
def Opens (schema : Schema) (passed : List (String × String)) (field : FieldDefinition) : Prop :=
  match schema.target field with
  | .error _ => False
  | .ok .leaf => field.arguments ≠ []
  | .ok (.composite next) => (field.name, next.name) ∉ passed

/-- The types that are projected below a type, with the fields passed on the way. Where a field and
a concrete type would stand at one place, the field is there. -/
inductive Reaches (schema : Schema) (start : TypeDefinition) :
    List (String × String) → TypeDefinition → Prop
  | start : schema.Reaches start [] start
  | field {passed : List (String × String)} {type next : TypeDefinition} {field : FieldDefinition}
      (reached : schema.Reaches start passed type) (declared : field ∈ type.fields)
      (target : schema.target field = .ok (.composite next)) (opens : schema.Opens passed field) :
      schema.Reaches start (passed ++ [(field.name, next.name)]) next
  | fragment {passed : List (String × String)} {type concrete : TypeDefinition}
      (reached : schema.Reaches start passed type) (member : concrete ∈ schema.concreteTypes type)
      (unopposed : ∀ field ∈ type.fields, field.name = concrete.name → ¬schema.Opens passed field) :
      schema.Reaches start passed concrete

/-- The projection of a field serves a concrete type too: it is of that type, or the type is
declared a leaf by the settings and has nothing below it. -/
def Serves (schema : Schema) (field : FieldDefinition) (concrete : TypeDefinition) : Prop :=
  schema.target field = .ok (.composite concrete) ∨
    schema.target field = .ok .leaf ∧ field.type.innermost = concrete.name ∧
      ∀ step next, ¬schema.Leads concrete step next

/-- Wherever a field stands in the place of a concrete type, it serves that type. -/
def Undisputed (schema : Schema) (start : TypeDefinition) : Prop :=
  ∀ passed type, schema.Reaches start passed type →
    ∀ concrete ∈ schema.concreteTypes type, ∀ field ∈ type.fields,
      field.name = concrete.name → schema.Opens passed field → schema.Serves field concrete

def ServedAt (schema : Schema) (passed : List (String × String)) (type concrete : TypeDefinition) :
    Prop :=
  ∀ field ∈ type.fields, field.name = concrete.name → schema.Opens passed field →
    schema.Serves field concrete

def FieldsDistinct (schema : Schema) : Prop :=
  ∀ type ∈ schema.types, (type.fields.map (·.name)).Nodup

instance (schema : Schema) : Decidable schema.FieldsDistinct :=
  inferInstanceAs (Decidable (∀ type ∈ schema.types, _))

end Schema

/-- Every walk through the schema can be followed from a node, to a node of the type it ends at. -/
def Forest.Realises (forest : Forest) (schema : Schema) (id : NodeId) (start : TypeDefinition) :
    Prop :=
  ∀ steps type, schema.Walks start steps type →
    ∃ last node, forest.follow id steps = some last ∧ forest.node? last = some node ∧
      node.type = type.name

/-- A projection is of a type and has a link for each step from there. -/
structure ProjectionNode.Offers (node : ProjectionNode) (schema : Schema) (type : TypeDefinition) :
    Prop where
  typed : node.type = type.name
  steps : ∀ step next, schema.Leads type step next → (node.link? step).isSome

/-- The history of an unfiltered and unbounded tree. -/
structure UnfilteredTree (schema : Schema) (start : TypeDefinition) (openings : List Opening)
    (workspace : Workspace) : Prop where
  wellFormed : schema.WellFormed
  complete : Complete ⟨schema, none⟩ openings [] workspace
  fieldsDistinct : schema.FieldsDistinct
  root : ∀ opening ∈ openings, opening.kind = .root →
    opening.path.length = 1 ∧ opening.purpose = .type start [] none

namespace Traversal

variable {schema : Schema} {spot request : Spot} {type : TypeDefinition} {trail : List TrailStep}
  {field : FieldDefinition}

theorem fieldPath_of_passed {next : TypeDefinition}
    (passed : (field.name, next.name) ∈ passedFields spot.purpose.trail) :
    ∃ step ∈ spot.purpose.trail, step.field = field.name ∧ step.type = next.name ∧
      spot.fieldPath field next none = step.path := by
  obtain ⟨first, here⟩ := Option.ne_none_iff_exists'.mp fun missing =>
    passed?_eq_none.mp missing passed
  have agrees := List.find?_some here
  simp only [Bool.and_eq_true, beq_iff_eq] at agrees
  exact ⟨first, List.mem_of_find?_eq_some here, agrees.1, agrees.2, by simp [Spot.fieldPath, here]⟩

theorem fieldPath_of_new (spot : Spot) {next : TypeDefinition}
    (isNew : (field.name, next.name) ∉ passedFields spot.purpose.trail) :
    spot.fieldPath field next none = spot.path ++ [field.name] := by
  simp [Spot.fieldPath, passed?_eq_none.mpr isNew]

/-- What a field requests when nothing is filtered or cut: the place of its arguments, a place of
its own, or that of a field passed before. -/
theorem requestOfField_cases (purpose : spot.purpose = .type type trail none)
    (requested : requestOfField ⟨schema, none⟩ spot field = some request) :
    (schema.Opens (passedFields trail) field ∧ request.kind ≠ .fragment ∧
      request.path = spot.path ++ [field.name] ∧
        (schema.target field = .ok .leaf ∧ request.purpose = .arguments field ∨
          ∃ next, schema.target field = .ok (.composite next) ∧ request.purpose =
            .type next (trail ++ [⟨field.name, next.name, spot.path ++ [field.name]⟩]) none)) ∨
      ∃ step ∈ trail, ∃ next, schema.target field = .ok (.composite next) ∧
        step.type = next.name ∧ request.path = step.path := by
  have trailOf : spot.purpose.trail = trail := by rw [purpose]; rfl
  have scopeOf : spot.purpose.scope = none := by rw [purpose]; rfl
  obtain ⟨filter, unfiltered, -, requested⟩ := requestOfField_eq_some.mp requested
  obtain rfl : filter = none := by simpa [scopeOf, partScope] using unfiltered.symm
  rcases requested with ⟨leads, arguments, rfl⟩ | ⟨next, leads, rfl⟩
  · have opens : schema.Opens (passedFields trail) field := by
      simpa [Schema.Opens, show schema.target field = .ok .leaf from leads] using arguments
    exact .inl ⟨opens, by simp, rfl, .inl ⟨leads, rfl⟩⟩
  · by_cases passed : (field.name, next.name) ∈ passedFields trail
    · obtain ⟨step, inside, -, same, path⟩ := fieldPath_of_passed (trailOf ▸ passed)
      exact .inr ⟨step, trailOf ▸ inside, next, leads, same, path⟩
    · have path := fieldPath_of_new spot (trailOf ▸ passed)
      have opens : schema.Opens (passedFields trail) field := by
        simpa [Schema.Opens, show schema.target field = .ok (.composite next) from leads] using passed
      refine .inl ⟨opens, by simp, path, .inr ⟨next, leads, ?_⟩⟩
      rw [trailOf, path]

theorem exists_request_of_opens (purpose : spot.purpose = .type type trail none)
    (opens : schema.Opens (passedFields trail) field) :
    ∃ request, requestOfField ⟨schema, none⟩ spot field = some request ∧
      request.path = spot.path ++ [field.name] := by
  have trailOf : spot.purpose.trail = trail := by rw [purpose]; rfl
  have scopeOf : spot.purpose.scope = none := by rw [purpose]; rfl
  simp only [requestOfField, scopeOf, partScope]
  unfold Schema.Opens at opens
  cases leads : schema.target field with
  | error fault => simp [leads] at opens
  | ok target =>
    rw [leads] at opens
    cases target with
    | leaf =>
      have arguments : field.arguments.isEmpty = false := by simpa using opens
      simp [boundsAt, arguments]
    | composite next =>
      have path := fieldPath_of_new spot (trailOf ▸ opens)
      simp [boundsAt, path]

theorem requestOfType_unfiltered (purpose : spot.purpose = .type type trail none)
    (concrete : TypeDefinition) : requestOfType spot concrete =
      some ⟨.fragment, spot.depth, spot.path ++ [concrete.name], .type concrete trail none⟩ := by
  have trailOf : spot.purpose.trail = trail := by rw [purpose]; rfl
  have scopeOf : spot.purpose.scope = none := by rw [purpose]; rfl
  simp [requestOfType, scopeOf, partScope, trailOf]

theorem link?_arguments {opening : Opening} (purpose : opening.purpose = .arguments field)
    (link : List String → Option Link) (step : SelectionStep) :
    (render ⟨schema, none⟩ link opening).link? step = none := by
  cases step <;>
    simp [ProjectionNode.link?, ProjectionNode.method?, render, purpose, Purpose.fields,
      Purpose.types]

end Traversal

namespace UnfilteredTree

open Traversal

variable {schema : Schema} {start type : TypeDefinition} {openings : List Opening}
  {workspace : Workspace} {opening target : Opening} {trail : List TrailStep}
  (tree : UnfilteredTree schema start openings workspace)
include tree

/-- An opening one segment below another is the first that the other requests there. -/
theorem first_at (member : opening ∈ openings) (member' : target ∈ openings)
    (kind : target.kind ≠ .root) {segment : String}
    (path : target.path = opening.path ++ [segment]) :
    (requests ⟨schema, none⟩ opening.toSpot).find? (·.path == target.path) = some target.toSpot :=
  (tree.complete.child_at (fun root inside isRoot => (tree.root root inside isRoot).1) member member'
    kind path).2

theorem known (member : opening ∈ openings) (purpose : opening.purpose = .type type trail none) :
    type ∈ schema.types := by
  have within := (tree.complete.grounded opening member).within
  rwa [purpose] at within

theorem field_of_request (member : opening ∈ openings)
    (purpose : opening.purpose = .type type trail none) {field : FieldDefinition} {request : Spot}
    {segment : String} (requested : requestOfField ⟨schema, none⟩ opening.toSpot field = some request)
    (path : request.path = opening.path ++ [segment]) :
    field.name = segment ∧ schema.Opens (passedFields trail) field ∧ request.kind ≠ .fragment ∧
      (schema.target field = .ok .leaf ∧ request.purpose = .arguments field ∨
        ∃ next, schema.target field = .ok (.composite next) ∧ request.purpose =
          .type next (trail ++ [⟨field.name, next.name, opening.path ++ [field.name]⟩]) none) := by
  rcases requestOfField_cases purpose requested with ⟨opens, kind, place, found⟩ | back
  · have last := List.append_cancel_left (place.symm.trans path)
    exact ⟨List.singleton_injective last, opens, kind, found⟩
  · obtain ⟨step, inside, next, -, -, place⟩ := back
    have passed : step ∈ opening.purpose.trail := by rw [purpose]; exact inside
    exact absurd (place.symm.trans path) (tree.complete.ne_of_trail member passed segment)

/-- A field that opens a projection is the first to request its place. -/
theorem find?_of_field (member : opening ∈ openings)
    (purpose : opening.purpose = .type type trail none) {field : FieldDefinition}
    (declared : field ∈ type.fields) {request : Spot}
    (requested : requestOfField ⟨schema, none⟩ opening.toSpot field = some request)
    (path : request.path = opening.path ++ [field.name]) :
    (requests ⟨schema, none⟩ opening.toSpot).find? (·.path == opening.path ++ [field.name]) =
      some request := by
  have fieldsOf : opening.purpose.fields = type.fields := by rw [purpose]; rfl
  have distinct := tree.fieldsDistinct type (tree.known member purpose)
  unfold requests
  have listed : request ∈ opening.purpose.fields.filterMap
      (requestOfField ⟨schema, none⟩ opening.toSpot) :=
    List.mem_filterMap.mpr ⟨field, fieldsOf ▸ declared, requested⟩
  rw [List.find?_append, find?_eq_some_of_unique listed, Option.some_or]
  · simpa using path
  · intro other inside place
    obtain ⟨source, declared', asked⟩ := List.mem_filterMap.mp inside
    have same := (tree.field_of_request member purpose asked (by simpa using place)).1
    rw [fieldsOf] at declared'
    obtain rfl := List.inj_on_of_nodup_map distinct declared' declared same
    exact Option.some.inj (asked.symm.trans requested)

/-- A concrete type is the first to request its place unless a field takes it. -/
theorem find?_of_type (member : opening ∈ openings)
    (purpose : opening.purpose = .type type trail none) {concrete : TypeDefinition}
    (listed : concrete ∈ schema.concreteTypes type)
    (unopposed : ∀ field ∈ type.fields, field.name = concrete.name →
      ¬schema.Opens (passedFields trail) field) :
    (requests ⟨schema, none⟩ opening.toSpot).find? (·.path == opening.path ++ [concrete.name]) =
      some ⟨.fragment, opening.depth, opening.path ++ [concrete.name],
        .type concrete trail none⟩ := by
  have fieldsOf : opening.purpose.fields = type.fields := by rw [purpose]; rfl
  have typesOf : opening.purpose.types schema = schema.concreteTypes type := by rw [purpose]; rfl
  have free : (opening.purpose.fields.filterMap
      (requestOfField ⟨schema, none⟩ opening.toSpot)).find?
        (·.path == opening.path ++ [concrete.name]) = none := by
    refine List.find?_eq_none.mpr fun request inside place => ?_
    obtain ⟨field, declared, asked⟩ := List.mem_filterMap.mp inside
    obtain ⟨same, opens, -⟩ := tree.field_of_request member purpose asked (by simpa using place)
    exact unopposed field (fieldsOf ▸ declared) same opens
  unfold requests
  rw [List.find?_append, free, Option.none_or]
  refine find?_eq_some_of_unique ?_ (by simp) ?_
  · exact List.mem_filterMap.mpr ⟨concrete, typesOf ▸ listed, requestOfType_unfiltered purpose _⟩
  · intro other inside place
    obtain ⟨source, listed', asked⟩ := List.mem_filterMap.mp inside
    rw [requestOfType_unfiltered purpose] at asked
    obtain rfl := Option.some.inj asked
    have same : source.name = concrete.name := by simpa using place
    obtain rfl := tree.wellFormed.eq_of_name
      (Schema.mem_types_of_concrete (typesOf ▸ listed')) (Schema.mem_types_of_concrete listed) same
    rfl

/-- Every projection is one of a type reached, or holds the arguments of a field. -/
theorem reached (member : opening ∈ openings) :
    (∃ type trail, opening.purpose = .type type trail none ∧
      schema.Reaches start (passedFields trail) type) ∨
    ∃ field, opening.purpose = .arguments field := by
  induction id : opening.id using Nat.strong_induction_on generalizing opening with
  | h number ih =>
    cases tree.complete.derived opening member with
    | root kind =>
      exact .inl ⟨start, [], (tree.root opening member kind).2, .start⟩
    | below parent member' earlier kind linked root further first =>
      obtain ⟨segment, path⟩ := further
      rcases ih parent.id (id ▸ earlier) member' rfl with ⟨type, trail, purpose, reached⟩ | wrapper
      · have requested := List.mem_of_find?_eq_some first
        rcases mem_requests.mp requested with ⟨field, declared, asked⟩ | ⟨concrete, listed, asked⟩
        · have fieldsOf : parent.purpose.fields = type.fields := by rw [purpose]; rfl
          obtain ⟨-, opens, -, leaf | ⟨next, leads, purpose'⟩⟩ :=
            tree.field_of_request member' purpose asked path
          · exact .inr ⟨field, leaf.2⟩
          · refine .inl ⟨next, _, purpose', ?_⟩
            rw [passedFields, List.map_append]
            exact reached.field (fieldsOf ▸ declared) leads opens
        · have typesOf : parent.purpose.types schema = schema.concreteTypes type := by
            rw [purpose]; rfl
          have fieldsOf : parent.purpose.fields = type.fields := by rw [purpose]; rfl
          rw [requestOfType_unfiltered purpose] at asked
          have spot := Option.some.inj asked
          have place : opening.path = parent.path ++ [concrete.name] :=
            (congrArg Spot.path spot).symm
          refine .inl ⟨concrete, trail, (congrArg Spot.purpose spot).symm,
            reached.fragment (typesOf ▸ listed) ?_⟩
          intro field declared same opens
          obtain ⟨request, asked', path'⟩ := exists_request_of_opens purpose opens
          have first' := tree.find?_of_field member' purpose declared asked' path'
          rw [same, ← place, first] at first'
          have kind := (tree.field_of_request member' purpose asked' path').2.2.1
          rw [← Option.some.inj first', ← spot] at kind
          exact kind rfl
      · obtain ⟨field, purpose⟩ := wrapper
        have requested := List.mem_of_find?_eq_some first
        simp [requests, purpose, Purpose.fields, Purpose.types] at requested

/-- A projection of a type is unfiltered, and the type is reached. -/
theorem reached_of_purpose (member : opening ∈ openings) {filter : Option Filter}
    (purpose : opening.purpose = .type type trail filter) :
    filter = none ∧ schema.Reaches start (passedFields trail) type := by
  rcases tree.reached member with ⟨_, _, purpose', reached⟩ | ⟨_, purpose'⟩
  · rw [purpose] at purpose'
    obtain ⟨rfl, rfl, rfl⟩ := Purpose.type.inj purpose'
    exact ⟨rfl, reached⟩
  · rw [purpose] at purpose'
    cases purpose'

/-- The method of a field links to what the field requests. -/
theorem link?_of_request (member : opening ∈ openings)
    (purpose : opening.purpose = .type type trail none) {field : FieldDefinition}
    (declared : field ∈ type.fields) {request : Spot}
    (requested : requestOfField ⟨schema, none⟩ opening.toSpot field = some request) :
    (render ⟨schema, none⟩ workspace.linkAt opening).link? (.field field.name) =
      workspace.linkAt request.path := by
  have fieldsOf : opening.purpose.fields = type.fields := by rw [purpose]; rfl
  have distinct := tree.fieldsDistinct type (tree.known member purpose)
  have kept := keepsField_of_request requested
  have first : opening.purpose.fields.find? (fun other =>
      other.name == field.name && keepsField ⟨schema, none⟩ opening.toSpot other) =
        some field := by
    refine find?_eq_some_of_unique (fieldsOf ▸ declared) (by simp [kept]) ?_
    intro other declared' same
    rw [fieldsOf] at declared'
    simp only [Bool.and_eq_true, beq_iff_eq] at same
    exact List.inj_on_of_nodup_map distinct declared' declared same.1
  simp only [ProjectionNode.link?, method?_render, first, Option.bind_some, methodAt, kept,
    if_true, requested]

/-- A field that was passed before leads back to the projection it led to then. -/
theorem purpose_of_passed (member : opening ∈ openings)
    (purpose : opening.purpose = .type type trail none) {field : FieldDefinition}
    {next : TypeDefinition} (leads : schema.target field = .ok (.composite next))
    (passed : (field.name, next.name) ∈ passedFields trail) {target : Opening}
    (inside : target ∈ openings) (kind : target.kind ≠ .root)
    (path : target.path = opening.fieldPath field next none) :
    ∃ trail', target.purpose = .type next trail' none := by
  have trailOf : opening.purpose.trail = trail := by rw [purpose]; rfl
  obtain ⟨step, above, -, same, place⟩ := fieldPath_of_passed (trailOf.symm ▸ passed)
  obtain ⟨other, inside', path', kind', -, -, type', trail', filter', purpose', named⟩ :=
    tree.complete.opening_of_trail member above
  have below : other.kind ≠ .root := by simp [kind']
  obtain rfl := tree.complete.eq_of_place inside inside' (path.trans (place.trans path'.symm))
    (iff_of_false kind below)
  obtain ⟨rfl, -⟩ := tree.reached_of_purpose inside purpose'
  have unique := tree.wellFormed.eq_of_name (tree.known inside purpose')
    (Schema.mem_types_of_target leads) (named.symm.trans same)
  exact ⟨_, unique ▸ purpose'⟩

/-- The method of a composite field links to a projection of its type; one of its own is opened for
a field that was not passed before. -/
theorem link?_field (member : opening ∈ openings)
    (purpose : opening.purpose = .type type trail none) {field : FieldDefinition}
    {next : TypeDefinition} (declared : field ∈ type.fields)
    (leads : schema.target field = .ok (.composite next)) :
    ∃ target ∈ openings, ∃ trail',
      (render ⟨schema, none⟩ workspace.linkAt opening).link? (.field field.name) =
        some ⟨target.id, target.name⟩ ∧ target.purpose = .type next trail' none ∧
      (schema.Opens (passedFields trail) field →
        passedFields trail' = passedFields trail ++ [(field.name, next.name)]) := by
  have fieldsOf : opening.purpose.fields = type.fields := by rw [purpose]; rfl
  have trailOf : opening.purpose.trail = trail := by rw [purpose]; rfl
  have scopeOf : opening.purpose.scope = none := by rw [purpose]; rfl
  have requested : requestOfField ⟨schema, none⟩ opening.toSpot field =
      some ⟨.sub, opening.depth + 1, opening.fieldPath field next none, .type next (trail ++
        [⟨field.name, next.name, opening.fieldPath field next none⟩]) none⟩ := by
    simp [requestOfField, scopeOf, trailOf, partScope, leads, boundsAt]
  have listed : _ ∈ requests ⟨schema, none⟩ opening.toSpot :=
    mem_requests.mpr (.inl ⟨field, fieldsOf ▸ declared, requested⟩)
  obtain ⟨target, inside, path, kind, linked⟩ :=
    tree.complete.target tree.wellFormed member listed
  have found := (tree.link?_of_request member purpose declared requested).trans linked
  by_cases passed : (field.name, next.name) ∈ passedFields trail
  · obtain ⟨trail', purpose'⟩ :=
      tree.purpose_of_passed member purpose leads passed inside kind path
    refine ⟨target, inside, trail', found, purpose', fun opens => ?_⟩
    simp only [Schema.Opens, leads] at opens
    exact absurd passed opens
  · have place := fieldPath_of_new opening.toSpot (trailOf.symm ▸ passed)
    have further : target.path = opening.path ++ [field.name] := path.trans place
    have first := tree.first_at member inside kind further
    rw [further, tree.find?_of_field member purpose declared requested place] at first
    refine ⟨target, inside, _, found, (congrArg Spot.purpose (Option.some.inj first)).symm, ?_⟩
    intro opens
    simp [passedFields]

/-- The accessor of a concrete type links to the projection at the place of the type. -/
theorem link?_fragment (member : opening ∈ openings)
    (purpose : opening.purpose = .type type trail none) {concrete : TypeDefinition}
    (listed : concrete ∈ schema.concreteTypes type) :
    ∃ target ∈ openings,
      (render ⟨schema, none⟩ workspace.linkAt opening).link? (.fragment concrete.name) =
        some ⟨target.id, target.name⟩ ∧
      (requests ⟨schema, none⟩ opening.toSpot).find? (·.path == opening.path ++ [concrete.name]) =
        some target.toSpot := by
  have typesOf : opening.purpose.types schema = schema.concreteTypes type := by rw [purpose]; rfl
  have requested := requestOfType_unfiltered purpose concrete
  have asked : _ ∈ requests ⟨schema, none⟩ opening.toSpot :=
    mem_requests.mpr (.inr ⟨concrete, typesOf ▸ listed, requested⟩)
  obtain ⟨target, inside, path, kind, linked⟩ :=
    tree.complete.target tree.wellFormed member asked
  have accessor : accessorAt workspace.linkAt opening.toSpot concrete =
      some ⟨concrete.name, ⟨target.id, target.name⟩⟩ := by
    simp only [accessorAt, requested, Option.bind_some, linked, Option.map_some]
  have first : (opening.purpose.types schema).find? (fun other =>
      (accessorAt workspace.linkAt opening.toSpot other).any (·.type == concrete.name)) =
        some concrete := by
    refine find?_eq_some_of_unique (typesOf ▸ listed) (by simp [accessor]) ?_
    intro other listed' same
    have named : other.name = concrete.name := by
      simp only [accessorAt, requestOfType_unfiltered purpose, Option.bind_some] at same
      cases link : workspace.linkAt (opening.path ++ [other.name]) with
      | none => simp [link] at same
      | some link => simpa [link] using same
    exact tree.wellFormed.eq_of_name (Schema.mem_types_of_concrete (typesOf ▸ listed'))
      (Schema.mem_types_of_concrete listed) named
  have further : target.path = opening.path ++ [concrete.name] := path
  refine ⟨target, inside, ?_, further ▸ tree.first_at member inside kind further⟩
  simp only [ProjectionNode.link?, fragment?_render, first, Option.bind_some, accessor,
    Option.map_some]

/-- A field that stands in the place of a concrete type is where its accessor leads to. -/
theorem link?_opposed (member : opening ∈ openings)
    (purpose : opening.purpose = .type type trail none) {concrete : TypeDefinition}
    (listed : concrete ∈ schema.concreteTypes type) {field : FieldDefinition}
    (declared : field ∈ type.fields) (same : field.name = concrete.name)
    (opens : schema.Opens (passedFields trail) field) :
    ∃ target ∈ openings,
      (render ⟨schema, none⟩ workspace.linkAt opening).link? (.fragment concrete.name) =
        some ⟨target.id, target.name⟩ ∧
      (schema.target field = .ok .leaf ∧ target.purpose = .arguments field ∨
        ∃ next trail', schema.target field = .ok (.composite next) ∧
          target.purpose = .type next trail' none) := by
  obtain ⟨target, inside, linked, first⟩ := tree.link?_fragment member purpose listed
  obtain ⟨request, asked, path⟩ := exists_request_of_opens purpose opens
  rw [← same, tree.find?_of_field member purpose declared asked path] at first
  obtain rfl := Option.some.inj first
  obtain ⟨-, -, -, leaf | ⟨next, leads, purpose'⟩⟩ :=
    tree.field_of_request member purpose asked path
  · exact ⟨target, inside, linked, .inl leaf⟩
  · exact ⟨target, inside, linked, .inr ⟨next, _, leads, purpose'⟩⟩

theorem link?_unopposed (member : opening ∈ openings)
    (purpose : opening.purpose = .type type trail none) {concrete : TypeDefinition}
    (listed : concrete ∈ schema.concreteTypes type)
    (unopposed : ∀ field ∈ type.fields, field.name = concrete.name →
      ¬schema.Opens (passedFields trail) field) :
    ∃ target ∈ openings,
      (render ⟨schema, none⟩ workspace.linkAt opening).link? (.fragment concrete.name) =
        some ⟨target.id, target.name⟩ ∧ target.purpose = .type concrete trail none := by
  obtain ⟨target, inside, linked, first⟩ := tree.link?_fragment member purpose listed
  rw [tree.find?_of_type member purpose listed unopposed] at first
  exact ⟨target, inside, linked, (congrArg Spot.purpose (Option.some.inj first)).symm⟩

/-- Following steps from the node of an opening. -/
theorem follow_cons (member : opening ∈ openings) {step : SelectionStep} {link : Link}
    (linked : (render ⟨schema, none⟩ workspace.linkAt opening).link? step = some link)
    (rest : List SelectionStep) :
    workspace.forest.follow opening.id (step :: rest) =
      workspace.forest.follow link.target rest := by
  simp only [Forest.follow, tree.complete.node?_id member, Option.bind_some, linked]

/-- A walk is followed from any projection of the type that it starts at. -/
theorem follows (undisputed : schema.Undisputed start) {steps : List SelectionStep}
    {last : TypeDefinition} (walks : schema.Walks type steps last) (member : opening ∈ openings)
    (purpose : opening.purpose = .type type trail none) :
    ∃ target ∈ openings, workspace.forest.follow opening.id steps = some target.id ∧
      target.purpose.typeName = last.name := by
  induction walks generalizing opening trail with
  | nil => exact ⟨opening, member, rfl, by rw [purpose]; rfl⟩
  | @cons type next last step rest first others ih =>
    have reached := (tree.reached_of_purpose member purpose).2
    cases first with
    | field declared leads =>
      obtain ⟨middle, inside, trail', linked, purpose', -⟩ :=
        tree.link?_field member purpose declared leads
      rw [tree.follow_cons member linked]
      exact ih inside purpose'
    | fragment listed =>
      by_cases opposed : ∃ field ∈ type.fields, field.name = next.name ∧
          schema.Opens (passedFields trail) field
      · obtain ⟨field, declared, same, opens⟩ := opposed
        obtain ⟨middle, inside, linked, found⟩ :=
          tree.link?_opposed member purpose listed declared same opens
        rw [tree.follow_cons member linked]
        rcases undisputed _ _ reached next listed field declared same opens with
          serves | ⟨leaf, named, ends⟩
        · rcases found with ⟨leaf, -⟩ | ⟨other, trail', leads, purpose'⟩
          · rw [serves] at leaf
            cases leaf
          · rw [serves] at leads
            obtain rfl := FieldTarget.composite.inj (Except.ok.inj leads)
            exact ih inside purpose'
        · -- Nothing lies below the type, so the walk ends at the arguments of the field.
          cases others with
          | cons first => exact absurd first (ends _ _)
          | nil =>
            rcases found with ⟨-, purpose'⟩ | ⟨_, _, leads, -⟩
            · exact ⟨middle, inside, rfl, by rw [purpose']; exact named⟩
            · rw [leaf] at leads
              cases leads
      · have unopposed : ∀ field ∈ type.fields, field.name = next.name →
            ¬schema.Opens (passedFields trail) field :=
          fun field declared same opens => opposed ⟨field, declared, same, opens⟩
        obtain ⟨middle, inside, linked, purpose'⟩ :=
          tree.link?_unopposed member purpose listed unopposed
        rw [tree.follow_cons member linked]
        exact ih inside purpose'

/-- A type that is reached is at the end of a walk that can be followed. -/
theorem walk_of_reaches {root : Opening} (planted : root ∈ openings)
    (isRoot : root.purpose = .type start [] none) {passed : List (String × String)}
    (reaches : schema.Reaches start passed type) :
    ∃ steps, schema.Walks start steps type ∧ ∃ opening ∈ openings, ∃ trail,
      workspace.forest.follow root.id steps = some opening.id ∧
      opening.purpose = .type type trail none ∧ passedFields trail = passed := by
  induction reaches with
  | start => exact ⟨[], .nil, root, planted, [], rfl, isRoot, rfl⟩
  | field _ declared leads opens ih =>
    obtain ⟨steps, walks, opening, member, trail, followed, purpose, rfl⟩ := ih
    obtain ⟨target, inside, trail', linked, purpose', new⟩ :=
      tree.link?_field member purpose declared leads
    refine ⟨_, walks.append (.single (.field declared leads)), target, inside, trail', ?_, purpose',
      new opens⟩
    rw [Forest.follow_append, followed, Option.bind_some, tree.follow_cons member linked]
    rfl
  | fragment _ listed unopposed ih =>
    obtain ⟨steps, walks, opening, member, trail, followed, purpose, rfl⟩ := ih
    obtain ⟨target, inside, linked, purpose'⟩ :=
      tree.link?_unopposed member purpose listed unopposed
    refine ⟨_, walks.append (.single (.fragment listed)), target, inside, trail, ?_, purpose', rfl⟩
    rw [Forest.follow_append, followed, Option.bind_some, tree.follow_cons member linked]
    rfl

theorem realises_of_undisputed {root : Opening} (planted : root ∈ openings)
    (isRoot : root.purpose = .type start [] none) (undisputed : schema.Undisputed start) :
    workspace.forest.Realises schema root.id start := by
  intro steps type walks
  obtain ⟨target, inside, followed, named⟩ := tree.follows undisputed walks planted isRoot
  exact ⟨target.id, _, followed, tree.complete.node?_id inside, named⟩

theorem offers_of_purpose (member : target ∈ openings)
    (purpose : target.purpose = .type type trail none) :
    (render ⟨schema, none⟩ workspace.linkAt target).Offers schema type := by
  refine ⟨congrArg Purpose.typeName purpose, fun step next leads => ?_⟩
  cases leads with
  | field declared leads =>
    obtain ⟨_, -, _, linked, -⟩ := tree.link?_field member purpose declared leads
    exact Option.isSome_of_eq_some linked
  | fragment listed =>
    obtain ⟨_, -, linked, -⟩ := tree.link?_fragment member purpose listed
    exact Option.isSome_of_eq_some linked

/-- The projection that a field leads to can be used as one of a concrete type exactly if the field
serves the type. -/
theorem offers_iff_serves {field : FieldDefinition} {concrete : TypeDefinition}
    (inside : target ∈ openings) (known : concrete ∈ schema.types)
    (found : schema.target field = .ok .leaf ∧ target.purpose = .arguments field ∨
      ∃ next trail, schema.target field = .ok (.composite next) ∧
        target.purpose = .type next trail none) :
    (render ⟨schema, none⟩ workspace.linkAt target).Offers schema concrete ↔
      schema.Serves field concrete := by
  rcases found with ⟨leaf, purpose⟩ | ⟨next, trail, leads, purpose⟩
  · have typed : target.purpose.typeName = field.type.innermost := congrArg Purpose.typeName purpose
    constructor
    · refine fun offers => .inr ⟨leaf, typed.symm.trans offers.typed, fun step next leads => ?_⟩
      have linked := offers.steps step next leads
      rw [link?_arguments purpose] at linked
      cases linked
    · rintro (composite | ⟨-, named, ends⟩)
      · cases leaf.symm.trans composite
      · exact ⟨typed.trans named, fun step next leads => absurd leads (ends step next)⟩
  · have typed : target.purpose.typeName = next.name := congrArg Purpose.typeName purpose
    constructor
    · intro offers
      have same : next = concrete := tree.wellFormed.eq_of_name (Schema.mem_types_of_target leads)
        known (typed.symm.trans offers.typed)
      exact .inl (same ▸ leads)
    · rintro (composite | ⟨leaf, -⟩)
      · rw [composite] at leads
        obtain rfl := FieldTarget.composite.inj (Except.ok.inj leads)
        exact tree.offers_of_purpose inside purpose
      · cases leads.symm.trans leaf

/-- The accessor of a concrete type leads to a projection that serves the type exactly if the field
in its place does, should there be one. -/
theorem offers_iff_servedAt (member : opening ∈ openings)
    (purpose : opening.purpose = .type type trail none) {concrete : TypeDefinition}
    (listed : concrete ∈ schema.concreteTypes type) :
    ∃ target ∈ openings,
      (render ⟨schema, none⟩ workspace.linkAt opening).link? (.fragment concrete.name) =
        some ⟨target.id, target.name⟩ ∧
      ((render ⟨schema, none⟩ workspace.linkAt target).Offers schema concrete ↔
        schema.ServedAt (passedFields trail) type concrete) := by
  by_cases opposed : ∃ field ∈ type.fields, field.name = concrete.name ∧
      schema.Opens (passedFields trail) field
  · obtain ⟨field, declared, same, opens⟩ := opposed
    obtain ⟨target, inside, linked, found⟩ :=
      tree.link?_opposed member purpose listed declared same opens
    have only : schema.ServedAt (passedFields trail) type concrete ↔ schema.Serves field concrete := by
      refine ⟨fun served => served field declared same opens, fun serves other declared' same' _ => ?_⟩
      have distinct := tree.fieldsDistinct type (tree.known member purpose)
      rwa [List.inj_on_of_nodup_map distinct declared' declared (same'.trans same.symm)]
    refine ⟨target, inside, linked, ?_⟩
    rw [only]
    exact tree.offers_iff_serves inside (Schema.mem_types_of_concrete listed) found
  · have unopposed : ∀ field ∈ type.fields, field.name = concrete.name →
        ¬schema.Opens (passedFields trail) field :=
      fun field declared same opens => opposed ⟨field, declared, same, opens⟩
    obtain ⟨target, inside, linked, purpose'⟩ := tree.link?_unopposed member purpose listed unopposed
    exact ⟨target, inside, linked, iff_of_true (tree.offers_of_purpose inside purpose')
      fun field declared same opens => absurd opens (unopposed field declared same)⟩

/-- Each place where a type is reached and has a concrete type is at the end of a walk. -/
theorem place_of_reaches {root : Opening} (planted : root ∈ openings)
    (isRoot : root.purpose = .type start [] none) {passed : List (String × String)}
    (reaches : schema.Reaches start passed type) {concrete : TypeDefinition}
    (listed : concrete ∈ schema.concreteTypes type) :
    ∃ steps last node, schema.Walks start steps type ∧
      workspace.forest.follow root.id (steps ++ [.fragment concrete.name]) = some last ∧
      workspace.forest.node? last = some node ∧
      (node.Offers schema concrete ↔ schema.ServedAt passed type concrete) := by
  obtain ⟨steps, walks, opening, member, trail, followed, purpose, rfl⟩ :=
    tree.walk_of_reaches planted isRoot reaches
  obtain ⟨target, inside, linked, offers⟩ := tree.offers_iff_servedAt member purpose listed
  refine ⟨steps, target.id, _, walks, ?_, tree.complete.node?_id inside, offers⟩
  rw [Forest.follow_append, followed, Option.bind_some, tree.follow_cons member linked]
  rfl

theorem undisputed_of_realises {root : Opening} (planted : root ∈ openings)
    (isRoot : root.purpose = .type start [] none)
    (realises : workspace.forest.Realises schema root.id start) : schema.Undisputed start := by
  intro passed type reaches concrete listed
  obtain ⟨steps, last, node, walks, followed, held, offers⟩ :=
    tree.place_of_reaches planted isRoot reaches listed
  have further := walks.append (.single (.fragment listed))
  refine offers.mp ⟨?_, fun step next leads => ?_⟩
  · obtain ⟨_, _, ended, held', named⟩ := realises _ _ further
    obtain rfl := Option.some.inj (followed.symm.trans ended)
    rwa [Option.some.inj (held.symm.trans held')]
  · obtain ⟨_, _, ended, -⟩ := realises _ _ (further.append (.single leads))
    rw [Forest.follow_append, followed, Option.bind_some] at ended
    cases linked : node.link? step with
    | some link => rfl
    | none => simp [Forest.follow, held, linked] at ended

end UnfilteredTree

namespace Schema

variable {schema : Schema} {start : TypeDefinition}

theorem Reaches.mem_types (known : start ∈ schema.types) {passed : List (String × String)}
    {type : TypeDefinition} (reaches : schema.Reaches start passed type) : type ∈ schema.types := by
  cases reaches with
  | start => exact known
  | field _ _ target _ => exact mem_types_of_target target
  | fragment _ member _ => exact mem_types_of_concrete member

/-- There is no dispute where no field is named like a concrete type of the type that declares it. -/
theorem undisputed_of_apart (known : start ∈ schema.types)
    (apart : ∀ type ∈ schema.types, ∀ concrete ∈ schema.concreteTypes type, ∀ field ∈ type.fields,
      field.name ≠ concrete.name) : schema.Undisputed start :=
  fun _ type reaches concrete listed field declared same _ =>
    absurd same (apart type (reaches.mem_types known) concrete listed field declared)

end Schema

/-- The tree of a root field in an empty workspace. -/
theorem unfilteredTree_of_root {texts : List String} {settings : Settings} {schema : Schema}
    (read : Schema.ofDocuments texts settings = .ok schema) (distinct : schema.FieldsDistinct)
    {owner start : TypeDefinition} {field : FieldDefinition} (known : owner ∈ schema.types)
    (declared : field ∈ owner.fields) (leads : schema.target field = .ok (.composite start))
    {abbreviated : Bool} {id : NodeId} {later : Workspace}
    (ran : Building.outcome (Traversal.root ⟨schema, none⟩ field none) (.empty abbreviated) =
      (.ok (some id), later)) :
    ∃ openings, UnfilteredTree schema start openings later ∧
      ∃ root ∈ openings, root.id = id ∧ root.purpose = .type start [] none := by
  have wellFormed := Schema.wellFormed_of_ofDocuments read
  obtain ⟨type, openings, leads', rfl, rooted, complete⟩ :=
    Traversal.complete_of_root wellFormed known declared ran
  rw [leads] at leads'
  obtain rfl := FieldTarget.composite.inj (Except.ok.inj leads')
  refine ⟨openings, ⟨wellFormed, complete, distinct, fun root member kind => ?_⟩, ?_⟩
  · rw [rooted.toSpot member kind]
    exact ⟨rfl, rfl⟩
  · obtain ⟨name, member⟩ := rooted.exists_planted
    exact ⟨_, member, rfl, rfl⟩

/-- At each place that is reached, the accessor of a concrete type can be used for all steps from
that type exactly if the field in its place serves it, should there be one. -/
theorem exists_offers_iff {texts : List String} {settings : Settings} {schema : Schema}
    (read : Schema.ofDocuments texts settings = .ok schema) (distinct : schema.FieldsDistinct)
    {owner start : TypeDefinition} {field : FieldDefinition} (known : owner ∈ schema.types)
    (declared : field ∈ owner.fields) (leads : schema.target field = .ok (.composite start))
    {abbreviated : Bool} {id : NodeId} {later : Workspace}
    (ran : Building.outcome (Traversal.root ⟨schema, none⟩ field none) (.empty abbreviated) =
      (.ok (some id), later))
    {passed : List (String × String)} {type concrete : TypeDefinition}
    (reaches : schema.Reaches start passed type) (listed : concrete ∈ schema.concreteTypes type) :
    ∃ steps last node, schema.Walks start steps type ∧
      later.forest.follow id (steps ++ [.fragment concrete.name]) = some last ∧
      later.forest.node? last = some node ∧
      (node.Offers schema concrete ↔ schema.ServedAt passed type concrete) := by
  obtain ⟨openings, tree, root, planted, rfl, isRoot⟩ :=
    unfilteredTree_of_root read distinct known declared leads ran
  exact tree.place_of_reaches planted isRoot reaches listed

/-- The projections of a root field realise every walk from its type exactly when each field that
stands in the place of a concrete type serves that type. -/
theorem realises_iff_undisputed {texts : List String} {settings : Settings} {schema : Schema}
    (read : Schema.ofDocuments texts settings = .ok schema) (distinct : schema.FieldsDistinct)
    {owner start : TypeDefinition} {field : FieldDefinition} (known : owner ∈ schema.types)
    (declared : field ∈ owner.fields) (leads : schema.target field = .ok (.composite start))
    {abbreviated : Bool} {id : NodeId} {later : Workspace}
    (ran : Building.outcome (Traversal.root ⟨schema, none⟩ field none) (.empty abbreviated) =
      (.ok (some id), later)) :
    later.forest.Realises schema id start ↔ schema.Undisputed start := by
  obtain ⟨openings, tree, root, planted, rfl, isRoot⟩ :=
    unfilteredTree_of_root read distinct known declared leads ran
  exact ⟨tree.undisputed_of_realises planted isRoot, tree.realises_of_undisputed planted isRoot⟩

def recursiveDocument : String :=
  "type Query \x7b show: Show \x7d
  interface Show \x7b next: Show \x7d
  type Movie implements Show \x7b next: Show \x7d"

theorem realises_recursiveDocument : ∃ schema owner field start id later,
    Schema.ofDocuments [recursiveDocument] .standard = .ok schema ∧ schema.FieldsDistinct ∧
    owner ∈ schema.types ∧ field ∈ owner.fields ∧ schema.target field = .ok (.composite start) ∧
    Building.outcome (Traversal.root ⟨schema, none⟩ field none) (.empty false) =
      (.ok (some id), later) ∧ later.forest.Realises schema id start := by
  obtain ⟨schema, owner, field, start, id, later, read, known, declared, leads, ran, facts⟩ :=
    exists_first_root recursiveDocument (fun schema _ _ _ =>
      decide (schema.FieldsDistinct ∧ ∀ type ∈ schema.types, ∀ concrete ∈ schema.concreteTypes type,
        ∀ field ∈ type.fields, field.name ≠ concrete.name)) (by decide +kernel)
  obtain ⟨distinct, apart⟩ := of_decide_eq_true facts
  exact ⟨schema, owner, field, start, id, later, read, distinct, known, declared, leads, ran,
    (realises_iff_undisputed read distinct known declared leads ran).mpr
      (Schema.undisputed_of_apart (Schema.mem_types_of_target leads) apart)⟩

def disputedDocument : String :=
  "type Query \x7b search: Show \x7d
  interface Show \x7b Movie: Other \x7d
  type Movie implements Show \x7b Movie: Other \x7d
  type Other \x7b x: Int \x7d"

/-- The accessor of the implementer leads to the projection of the field. -/
theorem not_realises_disputedDocument : ∃ schema owner field start id later,
    Schema.ofDocuments [disputedDocument] .standard = .ok schema ∧ schema.FieldsDistinct ∧
    (∀ type ∈ schema.types, type.isUnion = false) ∧ owner ∈ schema.types ∧ field ∈ owner.fields ∧
    schema.target field = .ok (.composite start) ∧
    Building.outcome (Traversal.root ⟨schema, none⟩ field none) (.empty false) =
      (.ok (some id), later) ∧ ¬later.forest.Realises schema id start := by
  obtain ⟨schema, owner, field, start, id, later, read, known, declared, leads, ran, facts⟩ :=
    exists_first_root disputedDocument (fun schema start forest id =>
      decide (schema.FieldsDistinct ∧ ∀ type ∈ schema.types, type.isUnion = false) &&
      ((schema.concreteTypes start).any (·.name == "Movie") &&
        ((forest.follow id [.fragment "Movie"]).bind forest.node?).any (·.type != "Movie")))
      (by decide +kernel)
  simp only [Bool.and_eq_true, decide_eq_true_eq] at facts
  obtain ⟨⟨distinct, unions⟩, implemented, misled⟩ := facts
  refine ⟨schema, owner, field, start, id, later, read, distinct, unions, known, declared, leads,
    ran, fun realises => ?_⟩
  obtain ⟨movie, listed, same⟩ := List.any_eq_true.mp implemented
  have named : movie.name = "Movie" := eq_of_beq same
  obtain ⟨last, node, followed, held, type⟩ := realises _ _ (.single (.fragment listed))
  rw [named] at followed type
  simp [followed, held, type] at misled

end GraphQLProjections
