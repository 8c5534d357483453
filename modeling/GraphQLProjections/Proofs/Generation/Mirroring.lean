import GraphQLProjections.Proofs.Generation.Operations
import GraphQLProjections.Proofs.Schema.Merging
import GraphQLProjections.Proofs.Schema.Unions

/-! Projections mirror types. Where no operations are selected, a projection has a method for each
field of its type, but for those that the depth bound cuts, and an accessor for each concrete type;
its methods are named in the table of constants of the type. -/
namespace GraphQLProjections

open Generation

/-- A node has the parts of its type. -/
structure ProjectionNode.Mirrors (traversal : Traversal) (constants : List ConstantTable)
    (type : TypeDefinition) (node : ProjectionNode) : Prop where
  /-- One method for each field in order; at the depth bound composite fields are left out. -/
  fields : node.methods.map (·.field) = type.fields.filter fun field =>
    !(traversal.boundsAt node.depth && traversal.leadsToComposite field)
  variants : ∀ method ∈ node.methods,
    method.variants.length = 3 ↔ method.field.arguments ≠ []
  links : ∀ method ∈ node.methods, method.link = none ↔
    traversal.schema.target method.field = .ok .leaf ∧
      (method.field.arguments = [] ∨ traversal.boundsAt node.depth = true)
  implementers : type.isInterface = true →
    node.fragments.map (·.type) = (traversal.schema.implementers type.name).map (·.name)
  members : type.isUnion = true →
    node.fragments.map (·.type) = (traversal.schema.members type.name).map (·.name)
  bare : type.isInterface = false → type.isUnion = false → node.fragments = []
  constants : type.isObject = true ∨ type.isInterface = true →
    ∃ table, constants.find? (·.type == type.name) = some table ∧
      node.methodNames.Sublist table.fields ∧
      (node.truncated = false → node.methodNames = table.fields)

namespace Traversal

variable {traversal : Traversal} {spot : Spot} {field : FieldDefinition}

theorem keepsField_unfiltered (unfiltered : spot.purpose.scope = none)
    (resolved : ∃ target, traversal.schema.target field = .ok target) :
    traversal.keepsField spot field =
      !(traversal.boundsAt spot.depth && traversal.leadsToComposite field) := by
  obtain ⟨target, leads⟩ := resolved
  cases target <;> simp [keepsField, leadsToComposite, unfiltered, partScope, leads]

theorem requestOfField_eq_none (unfiltered : spot.purpose.scope = none)
    (kept : traversal.keepsField spot field = true) :
    traversal.requestOfField spot field = none ↔ traversal.schema.target field = .ok .leaf ∧
      (field.arguments = [] ∨ traversal.boundsAt spot.depth = true) := by
  cases leads : traversal.schema.target field with
  | error fault => simp [keepsField, leads] at kept
  | ok target =>
    cases target with
    | leaf => simp [requestOfField, unfiltered, partScope, leads, or_iff_not_imp_left]
    | composite type =>
      have ahead : traversal.boundsAt spot.depth = false := by
        simpa [keepsField, unfiltered, partScope, leads] using kept
      simp [requestOfField, unfiltered, partScope, leads, ahead]

/-- What is not truncated is at no bound, or has no composite field to leave out. -/
theorem whole_of_not_cutsAt (unfiltered : spot.purpose.scope = none)
    (whole : traversal.cutsAt spot = false) : ∀ field ∈ spot.purpose.fields,
      (!(traversal.boundsAt spot.depth && traversal.leadsToComposite field)) = true := by
  intro field declared
  cases bound : traversal.boundsAt spot.depth with
  | false => rfl
  | true =>
    have uncut : spot.purpose.fields.any traversal.leadsToComposite = false := by
      simpa [cutsAt, bound, unfiltered, partScope] using whole
    simpa using List.any_eq_false.mp uncut field declared

theorem map_field_render (link : List String → Option Link) (opening : Opening) :
    (traversal.render link opening).methods.map (·.field) =
      opening.purpose.fields.filter (traversal.keepsField opening.toSpot) := by
  change (opening.purpose.fields.filterMap _).map _ = _
  rw [List.map_filterMap, ← List.filterMap_eq_filter]
  apply List.filterMap_congr
  intro field _
  cases kept : traversal.keepsField opening.toSpot field <;> simp [methodAt, kept, Option.guard]

end Traversal

theorem SelectionMethod.length_variants (method : SelectionMethod) :
    method.variants.length = 3 ↔ method.field.arguments ≠ [] := by
  unfold SelectionMethod.variants
  cases method.field.arguments <;> simp

/-- An object or interface type has one table of constants, which lists all its fields. -/
theorem ConstantTable.find?_ofSchema {schema : Schema} (wellFormed : schema.WellFormed)
    {type : TypeDefinition} (known : type ∈ schema.types)
    (composed : type.isObject = true ∨ type.isInterface = true) :
    ∃ table, (ofSchema schema).find? (·.type == type.name) = some table ∧
      table.fields = type.fields.map (·.name) := by
  have listed : ofType? type =
      some ⟨type.name, type.fields.map (·.name), argumentNames type⟩ := by
    obtain ⟨name, content, directives⟩ := type
    cases content <;>
      simp_all [ofType?, TypeContent.names?, TypeDefinition.isObject, TypeDefinition.isInterface,
        TypeDefinition.fields]
  refine ⟨_, find?_eq_some_of_unique (List.mem_filterMap.mpr ⟨type, known, listed⟩)
    (beq_self_eq_true _) ?_, rfl⟩
  intro table member named
  obtain ⟨other, known', listed'⟩ := List.mem_filterMap.mp member
  have owner : table.type = other.name := by
    obtain ⟨names, -, rfl⟩ := Option.map_eq_some_iff.mp listed'
    rfl
  obtain rfl := wellFormed.eq_of_name known' known (owner.symm.trans (eq_of_beq named))
  exact Option.some.inj (listed'.symm.trans listed)

section Complete

variable {traversal : Traversal} {openings : List Opening} {others : List (List String × String)}
  {workspace : Workspace}

variable (complete : Complete traversal openings others workspace) {opening : Opening}
  (member : opening ∈ openings) {type : TypeDefinition} {trail : List TrailStep}
  (purpose : opening.purpose = .type type trail none)
include complete member purpose

theorem Complete.fields_render : (traversal.render workspace.linkAt opening).methods.map (·.field) =
    type.fields.filter fun field =>
      !(traversal.boundsAt opening.depth && traversal.leadsToComposite field) := by
  have fieldsOf : opening.purpose.fields = type.fields := congrArg Purpose.fields purpose
  have unfiltered : opening.purpose.scope = none := congrArg Purpose.scope purpose
  rw [Traversal.map_field_render, fieldsOf]
  apply List.filter_congr
  intro field declared
  apply Traversal.keepsField_unfiltered unfiltered
  apply (complete.settled member).1 field (fieldsOf ▸ declared)
  rw [unfiltered]
  rfl

theorem Complete.links_render {method : SelectionMethod}
    (listed : method ∈ (traversal.render workspace.linkAt opening).methods) :
    method.link = none ↔ traversal.schema.target method.field = .ok .leaf ∧
      (method.field.arguments = [] ∨ traversal.boundsAt opening.depth = true) := by
  have unfiltered : opening.purpose.scope = none := congrArg Purpose.scope purpose
  obtain ⟨field, declared, made⟩ := List.mem_filterMap.mp listed
  obtain ⟨kept, rfl⟩ := Traversal.methodAt_eq_some.mp made
  rw [← Traversal.requestOfField_eq_none unfiltered kept]
  cases requested : traversal.requestOfField opening.toSpot field with
  | none => exact iff_of_true rfl rfl
  | some request =>
    have answered := complete.answered member
      (Traversal.mem_requests.mpr (.inl ⟨field, declared, requested⟩))
    exact iff_of_false (Option.isSome_iff_ne_none.mp answered) nofun

theorem Complete.fragments_render :
    (traversal.render workspace.linkAt opening).fragments.map (·.type) =
      (traversal.schema.concreteTypes type).map (·.name) := by
  have typesOf : opening.purpose.types traversal.schema = traversal.schema.concreteTypes type :=
    congrArg (Purpose.types traversal.schema) purpose
  have unfiltered : opening.purpose.scope = none := congrArg Purpose.scope purpose
  change ((opening.purpose.types traversal.schema).filterMap _).map _ = _
  rw [typesOf, List.map_filterMap, ← List.filterMap_eq_map]
  apply List.filterMap_congr
  intro concrete listed
  have asked : Traversal.requestOfType opening.toSpot concrete = some ⟨.fragment, opening.depth,
      opening.path ++ [concrete.name], .type concrete opening.purpose.trail none⟩ := by
    simp [Traversal.requestOfType, unfiltered, partScope]
  have answered := complete.answered member
    (Traversal.mem_requests.mpr (.inr ⟨concrete, typesOf ▸ listed, asked⟩))
  obtain ⟨link, found⟩ := Option.isSome_iff_exists.mp answered
  simp [Traversal.accessorAt, asked, found]

/-- An unfiltered projection of a type mirrors it. -/
theorem Complete.mirrors (wellFormed : traversal.schema.WellFormed) :
    (traversal.render workspace.linkAt opening).Mirrors traversal
      (ConstantTable.ofSchema traversal.schema) type := by
  have fields := complete.fields_render member purpose
  have fragments := complete.fragments_render member purpose
  unfold Schema.concreteTypes at fragments
  refine ⟨fields, fun method _ => method.length_variants,
    fun method => complete.links_render member purpose, ?_, ?_, ?_, ?_⟩
  · intro interface
    rw [fragments, if_pos interface]
  · intro union
    simp [fragments, TypeDefinition.not_isInterface_of_isUnion union, union]
  · intro interface union
    simpa [interface, union] using fragments
  · intro composed
    have known : type ∈ traversal.schema.types := by
      have within := (complete.grounded opening member).within
      rwa [purpose] at within
    obtain ⟨table, found, names⟩ := ConstantTable.find?_ofSchema wellFormed known composed
    have methodNames : (traversal.render workspace.linkAt opening).methodNames =
        (type.fields.filter fun field => !(traversal.boundsAt opening.depth &&
          traversal.leadsToComposite field)).map (·.name) := by
      rw [← fields, List.map_map]
      rfl
    refine ⟨table, found, ?_, ?_⟩
    · rw [methodNames, names]
      exact List.filter_sublist.map _
    · intro whole
      have fieldsOf : opening.purpose.fields = type.fields := congrArg Purpose.fields purpose
      rw [methodNames, names, List.filter_eq_self.mpr]
      rw [← fieldsOf]
      exact Traversal.whole_of_not_cutsAt (congrArg Purpose.scope purpose) whole

end Complete

def Output.entitiesRoot? (output : Output) (settings : Settings) (schema : Schema) :
    Option String :=
  (output.lookUpOperation? settings schema).bind (·.projectionRoot)

section Carried

variable {settings : Settings} {schema : Schema} {selected : Option SelectedRoots}
  {openings : List Opening} {operations : List OperationDescriptor}
  {representations : List Representation} {workspace : Workspace}

/-- The projection of the union of entities is the root of their look-up. -/
theorem Carried.entitiesRoot?
    (carried : Carried settings schema selected openings operations representations workspace)
    {output : Output} (same : output.operations = operations) {root : Opening}
    (member : root ∈ openings) (kind : root.kind = .root) {types : List TypeDefinition}
    (purpose : root.purpose = .entities types) :
    output.entitiesRoot? settings schema = some root.name := by
  obtain ⟨others, paths, standing⟩ := carried.standing
  have asked : root.toSpot ∈ entitiesSpot? settings schema selected := by
    rcases List.mem_append.mp (standing.mem_spots.mpr ⟨root, member, kind, rfl⟩) with planned | asked
    · obtain ⟨⟨path, field⟩, -, made⟩ := List.mem_filterMap.mp planned
      obtain ⟨type, -, spot⟩ := spotOf_eq_some.mp made
      have typed : root.purpose = .type type [] field.filter := congrArg Spot.purpose spot
      cases purpose.symm.trans typed
    · exact Option.mem_toList.mp asked
  obtain ⟨operation, found, describes⟩ := carried.lookUpOperation? same asked
  obtain ⟨other, member', spot, named⟩ := describes.root
  have path : other.path = root.path := congrArg Spot.path spot
  have kind' : other.kind = .root := (congrArg Spot.kind spot).trans kind
  obtain rfl := standing.complete.eq_of_place member' member path (iff_of_true kind' kind)
  rw [Output.entitiesRoot?, found, Option.bind_some, named]

end Carried

namespace Generation

variable {settings : Settings} {schema : Schema} {selected : Option SelectedRoots}

theorem unfiltered_of_mem_plannedSpots (all : settings.definedOnly = false) {spot : Spot}
    (planned : spot ∈ plannedSpots settings schema selected) : spot.Unfiltered := by
  rcases List.mem_append.mp planned with planned | asked
  · obtain ⟨⟨path, root⟩, member, made⟩ := List.mem_filterMap.mp planned
    obtain ⟨type, -, rfl⟩ := spotOf_eq_some.mp made
    obtain ⟨inside, -⟩ := path_of_mem_plan member
    obtain ⟨-, -, -, -, gets⟩ := mem_rootFieldsOf.mp inside
    rw [keptRoots, if_neg (by simp [all])] at gets
    exact (congrArg RootField.filter (Option.some.inj gets)).symm
  · obtain rfl := eq_of_mem_entitiesSpot? asked
    rfl

/-- Unless operations are selected, nothing narrows what is projected. -/
theorem unfiltered_of_standing (all : settings.definedOnly = false) {openings : List Opening}
    {others : List (List String × String)} {paths : List (List String)} {workspace : Workspace}
    (standing : Standing ⟨schema, settings.maxDepth⟩ openings others paths
      (plannedSpots settings schema selected) workspace) :
    ∀ opening ∈ openings, opening.Unfiltered :=
  standing.complete.forall_of_requests
    (fun root member kind => unfiltered_of_mem_plannedSpots all
      (standing.mem_spots.mpr ⟨root, member, kind, rfl⟩))
    fun _ _ held requested => held.request requested

theorem constants_of_generate {output : Output}
    (ok : generate settings schema selected = .ok output) :
    output.constants = ConstantTable.ofSchema schema := by
  unfold generate at ok
  cases keeping : scope settings selected with
  | error fault => simp [keeping, bind, Except.bind] at ok
  | ok kept =>
    rcases ran : (run settings schema kept).outcome (.empty settings.shortNames) with
      ⟨result, workspace⟩
    cases result with
    | error fault => simp [keeping, ran, bind, Except.bind] at ok
    | ok produced =>
      simp only [keeping, ran, bind, Except.bind] at ok
      split at ok
      · cases ok
      · obtain rfl := Except.ok.inj ok
        rfl

/-- Unless operations are selected, every projection of a type mirrors it, whatever its depth. -/
theorem mirrors_of_generate {texts : List String} {reading : Settings}
    (read : Schema.ofDocuments texts reading = .ok schema) (all : settings.definedOnly = false)
    {output : Output} (ok : generate settings schema selected = .ok output) :
    ∃ documents, texts.mapM Schema.readDocument = .ok documents ∧
      ∀ node ∈ output.projections, node.kind ≠ .argumentWrapper →
        output.entitiesRoot? settings schema ≠ some node.name →
        ∃ type, schema.type? node.type = some type ∧
          type.fields = (Schema.declaredFields documents.flatten type.name).filter
            (Schema.keepsField reading.skipDirective schema.skipped) ∧
          node.Mirrors ⟨schema, settings.maxDepth⟩ output.constants type := by
  have wellFormed := Schema.wellFormed_of_ofDocuments read
  obtain ⟨documents, declared, assembled⟩ := Schema.exists_documents read
  obtain ⟨openings, workspace, carried, nodes⟩ := carried_of_generate wellFormed ok
  obtain ⟨others, paths, standing⟩ := carried.standing
  have complete := standing.complete
  refine ⟨documents, declared, ?_⟩
  rw [nodes, constants_of_generate ok]
  refine List.forall_mem_map.mpr fun opening member kind apart => ?_
  have plain := unfiltered_of_standing all standing opening member
  unfold Spot.Unfiltered at plain
  split at plain
  next type trail filter purpose =>
    subst plain
    have known : type ∈ schema.types := by
      have within := (complete.grounded opening member).within
      rwa [purpose] at within
    have typed : (Traversal.render ⟨schema, settings.maxDepth⟩ workspace.linkAt opening).type =
        type.name := congrArg Purpose.typeName purpose
    have found := wellFormed.type?_name known
    refine ⟨type, typed ▸ found, ?_, complete.mirrors member purpose wellFormed⟩
    rw [assembled] at found ⊢
    exact Schema.fields_of_assemble found
  next wrapper => exact absurd plain kind
  next purpose => exact absurd (carried.entitiesRoot? rfl member plain purpose) apart

def extendedDocument : String :=
  "type Query \x7b show: Show \x7d
  interface Show \x7b title(length: Int): String \x7d
  type Movie implements Show \x7b title(length: Int): String \x7d
  extend type Movie \x7b year: Int sequel: Show \x7d"

theorem mirrors_extendedDocument : ∃ schema output documents,
    Schema.ofDocuments [extendedDocument] .standard = .ok schema ∧
      generate .standard schema none = .ok output ∧
      [extendedDocument].mapM Schema.readDocument = .ok documents ∧
      (∃ node ∈ output.projections, node.kind = .sub ∧ node.type = "Show") ∧
      (∃ node ∈ output.projections, node.kind = .fragment ∧
        node.methodNames = ["title", "year", "sequel"]) ∧
      ∀ node ∈ output.projections, node.kind ≠ .argumentWrapper →
        output.entitiesRoot? .standard schema ≠ some node.name →
        ∃ type, schema.type? node.type = some type ∧
          type.fields = (Schema.declaredFields documents.flatten type.name).filter
            (Schema.keepsField Settings.standard.skipDirective schema.skipped) ∧
          node.Mirrors ⟨schema, Settings.standard.maxDepth⟩ output.constants type := by
  obtain ⟨schema, output, read, ok, found⟩ := exists_generated extendedDocument
    (fun _ output => decide ((∃ node ∈ output.projections, node.kind = .sub ∧ node.type = "Show") ∧
      ∃ node ∈ output.projections, node.kind = .fragment ∧
        node.methodNames = ["title", "year", "sequel"])) (by decide +kernel)
  obtain ⟨sub, fragment⟩ := of_decide_eq_true found
  obtain ⟨documents, declared, mirrors⟩ := mirrors_of_generate read rfl ok
  exact ⟨schema, output, documents, read, ok, declared, sub, fragment, mirrors⟩

end Generation
end GraphQLProjections
