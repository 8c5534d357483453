import GraphQLProjections.Proofs.Generation.Faults
import GraphQLProjections.Proofs.Generation.Mapped
import GraphQLProjections.Proofs.Generation.Mirroring
import GraphQLProjections.Proofs.Schema.Skipping

/-! Types that are dropped by the skip directive do not come back. What a schema avoids, the output
avoids in all that it takes from the schema: the types of projections, accessors, representations and
tables of constants, and the fields of projections and representations. -/
namespace GraphQLProjections

open Generation

/-- Nothing of the output refers to a dropped type. The root of the look-up of entities has a name of
its own. -/
structure Output.Avoids (output : Output) (settings : Settings) (schema : Schema)
    (dropped : String → Bool) : Prop where
  projections : ∀ node ∈ output.projections,
    output.entitiesRoot? settings schema ≠ some node.name → dropped node.type = false
  root : ∀ node ∈ output.projections,
    output.entitiesRoot? settings schema = some node.name →
      node.kind = .root ∧ node.type = Traversal.entityUnion
  methods : ∀ node ∈ output.projections, ∀ method ∈ node.methods,
    dropped method.field.type.innermost = false
  accessors : ∀ node ∈ output.projections, ∀ accessor ∈ node.fragments,
    dropped accessor.type = false
  representations : ∀ representation ∈ output.representations,
    dropped representation.type = false
  /-- The type name is the one field that no type declares. -/
  values : ∀ representation ∈ output.representations, ∃ fields,
    representation.fields = Representation.typeNameField representation.type :: fields ∧
      ∀ field ∈ fields, dropped field.type.innermost = false
  constants : ∀ table ∈ output.constants, dropped table.type = false
  members : ∀ table ∈ output.constants, ∀ type ∈ schema.types, type.isUnion = true →
    type.name = table.type → ∀ name ∈ table.fields, dropped name = false

theorem TypeDefinition.names?_of_isUnion {type : TypeDefinition} (union : type.isUnion = true) :
    type.content.names? = some type.memberNames := by
  obtain ⟨name, content, directives⟩ := type
  cases content <;> first | rfl | cases union

namespace Schema.Avoids

variable {schema : Schema} {dropped : String → Bool} (avoids : schema.Avoids dropped)
include avoids

theorem typeName_of_request {traversal : Traversal} (same : traversal.schema = schema)
    {spot request : Spot} (grounded : spot.Grounded schema)
    (requested : request ∈ traversal.requests spot) : dropped request.purpose.typeName = false := by
  subst same
  rcases Traversal.mem_requests.mp requested with ⟨field, listed, made⟩ | ⟨type, listed, made⟩
  · obtain ⟨type, known, declared⟩ := grounded.declaring listed
    obtain ⟨_, -, -, ⟨-, -, rfl⟩ | ⟨_, leads, rfl⟩⟩ := Traversal.requestOfField_eq_some.mp made
    · exact avoids.fields type known field declared
    · exact avoids.types _ (Schema.mem_types_of_target leads)
  · rw [Traversal.typeName_of_requestOfType made]
    exact avoids.types type (grounded.mem_types listed)

theorem of_follows {planned : String × KeyTree} {representation : Representation}
    (follows : representation.Follows schema planned) :
    dropped representation.type = false ∧ ∃ fields,
      representation.fields = Representation.typeNameField representation.type :: fields ∧
        ∀ field ∈ fields, dropped field.type.innermost = false := by
  obtain ⟨type, values, found, fields, keyed⟩ := follows.fields
  have known := Schema.mem_types_of_type? found
  rw [follows.type]
  refine ⟨Schema.name_of_type? found ▸ avoids.types type known, values, fields, ?_⟩
  intro value listed
  have pair : (value.name, value.type) ∈ type.keyFields planned.2.fieldNames :=
    keyed ▸ List.mem_map_of_mem listed
  obtain ⟨field, declared, same⟩ := List.mem_map.mp pair
  obtain ⟨name, -, first⟩ := List.mem_filterMap.mp declared
  obtain ⟨-, typed⟩ := Prod.mk.inj same
  exact typed ▸ avoids.fields type known field (List.mem_of_find?_eq_some first)

theorem of_mem_constants {table : ConstantTable} (listed : table ∈ ConstantTable.ofSchema schema) :
    dropped table.type = false := by
  obtain ⟨type, known, made⟩ := List.mem_filterMap.mp listed
  obtain ⟨names, -, rfl⟩ := Option.map_eq_some_iff.mp made
  exact avoids.types type known

theorem members_of_mem_constants (wellFormed : schema.WellFormed) {table : ConstantTable}
    (listed : table ∈ ConstantTable.ofSchema schema) {type : TypeDefinition}
    (known : type ∈ schema.types) (union : type.isUnion = true) (named : type.name = table.type) :
    ∀ name ∈ table.fields, dropped name = false := by
  obtain ⟨other, known', made⟩ := List.mem_filterMap.mp listed
  obtain ⟨names, listing, rfl⟩ := Option.map_eq_some_iff.mp made
  obtain rfl := wellFormed.eq_of_name known known' named
  obtain rfl := Option.some.inj ((TypeDefinition.names?_of_isUnion union).symm.trans listing)
  exact avoids.members type known

end Schema.Avoids

theorem Carried.of_entitiesRoot? {settings : Settings} {schema : Schema}
    {selected : Option SelectedRoots} {openings : List Opening}
    {operations : List OperationDescriptor} {representations : List Representation}
    {workspace : Workspace}
    (carried : Carried settings schema selected openings operations representations workspace)
    {output : Output} (same : output.operations = operations) {opening : Opening}
    (member : opening ∈ openings)
    (named : output.entitiesRoot? settings schema = some opening.name) :
    opening.kind = .root ∧ opening.purpose.typeName = Traversal.entityUnion := by
  obtain ⟨others, paths, standing⟩ := carried.standing
  obtain ⟨operation, found, rooted⟩ := Option.bind_eq_some_iff.mp named
  have lookUp := (carried.operations_split same).2
  rw [found] at lookUp
  cases asked : entitiesSpot? settings schema selected with
  | none =>
    rw [asked] at lookUp
    cases lookUp
  | some spot =>
    rw [asked] at lookUp
    cases lookUp with
    | some describes =>
      obtain ⟨root, member', spot', named'⟩ := describes.root
      obtain rfl := standing.complete.eq_of_name member' member
        (Option.some.inj (named'.symm.trans rooted))
      obtain rfl := eq_of_mem_entitiesSpot? (Option.mem_toList.mpr asked)
      exact ⟨congrArg Spot.kind spot', congrArg (·.purpose.typeName) spot'⟩

namespace Generation

variable {settings : Settings} {schema : Schema} {selected : Option SelectedRoots}
  {dropped : String → Bool}

/-- A root is projected for a type of the schema, or it is that of the look-up of entities. -/
theorem avoids_of_mem_plannedSpots (avoids : schema.Avoids dropped) {spot : Spot}
    (planned : spot ∈ plannedSpots settings schema selected) :
    dropped spot.purpose.typeName = false ∨ ∃ types, spot.purpose = .entities types := by
  rcases List.mem_append.mp planned with planned | asked
  · obtain ⟨⟨path, root⟩, -, made⟩ := List.mem_filterMap.mp planned
    obtain ⟨type, leads, rfl⟩ := spotOf_eq_some.mp made
    exact .inl (avoids.types type (Schema.mem_types_of_target leads))
  · obtain rfl := eq_of_mem_entitiesSpot? asked
    exact .inr ⟨_, rfl⟩

theorem representations_of_generate {output : Output}
    (ok : generate settings schema selected = .ok output)
    (unasked : looksUp settings schema = false) : output.representations = [] := by
  have skips : (settings.skipEntities || schema.entities.isEmpty) = true := by
    rwa [looksUp, Bool.not_eq_false'] at unasked
  obtain ⟨kept, operations, representations, workspace, -, ran, rfl, -⟩ := generate_eq_ok.mp ok
  have none : entityOperations settings ⟨schema, settings.maxDepth⟩ = pure ([], []) := by
    simp only [entityOperations, skips, if_true]
  have empty : Ensures (run settings schema kept) (.empty settings.shortNames)
      (fun _ _ => True) fun result _ => result.2 = [] := by
    apply (Tells.of_holds trivial _).bind
    intro operations later _
    rw [none]
    exact .pure rfl
  exact empty.of_ok ran

/-- Every representation follows a key that is planned. -/
theorem follows_of_generate (wellFormed : schema.WellFormed) {output : Output}
    (ok : generate settings schema selected = .ok output) {representation : Representation}
    (listed : representation ∈ output.representations) :
    ∃ planned, representation.Follows schema planned := by
  obtain ⟨openings, workspace, carried, -⟩ := carried_of_generate wellFormed ok
  cases asked : looksUp settings schema with
  | false => simp [representations_of_generate ok asked] at listed
  | true =>
    obtain ⟨planned, -, follows⟩ := exists_left_of_forall₂ (carried.follow asked).follow listed
    exact ⟨planned, follows⟩

/-- What is generated for a schema refers to no type that the schema avoids. -/
theorem avoids_of_generate (wellFormed : schema.WellFormed) (avoids : schema.Avoids dropped)
    {output : Output} (ok : generate settings schema selected = .ok output) :
    output.Avoids settings schema dropped := by
  obtain ⟨openings, workspace, carried, nodes⟩ := carried_of_generate wellFormed ok
  obtain ⟨others, paths, standing⟩ := carried.standing
  have complete := standing.complete
  have type {opening : Opening} (member : opening ∈ openings) :
      dropped opening.purpose.typeName = false ∨
        opening.kind = .root ∧ ∃ types, opening.purpose = .entities types := by
    cases complete.derived opening member with
    | root kind =>
      exact (avoids_of_mem_plannedSpots avoids
        (standing.mem_spots.mpr ⟨opening, member, kind, rfl⟩)).imp_right fun entities =>
        ⟨kind, entities⟩
    | below parent inside _ _ _ _ _ first =>
      exact .inl (avoids.typeName_of_request rfl (complete.grounded parent inside)
        (List.mem_of_find?_eq_some first))
  have constants := constants_of_generate ok
  refine ⟨?_, ?_, ?_, ?_, fun _ listed => ?_, fun _ listed => ?_, ?_, ?_⟩
  · rw [nodes]
    refine List.forall_mem_map.mpr fun opening member apart => ?_
    rcases type member with stays | ⟨kind, types, purpose⟩
    · exact stays
    · exact absurd (carried.entitiesRoot? rfl member kind purpose) apart
  · rw [nodes]
    exact List.forall_mem_map.mpr fun opening member named => carried.of_entitiesRoot? rfl member named
  · rw [nodes]
    refine List.forall_mem_map.mpr fun opening member method listed => ?_
    obtain ⟨field, declared, made⟩ := List.mem_filterMap.mp listed
    obtain ⟨-, rfl⟩ := Traversal.methodAt_eq_some.mp made
    obtain ⟨type, known, inside⟩ := (complete.grounded opening member).declaring declared
    exact avoids.fields type known field inside
  · rw [nodes]
    refine List.forall_mem_map.mpr fun opening member accessor listed => ?_
    obtain ⟨type, inside, made⟩ := List.mem_filterMap.mp listed
    rw [(Traversal.of_accessorAt made).1]
    exact avoids.types type ((complete.grounded opening member).mem_types inside)
  · exact (avoids.of_follows (follows_of_generate wellFormed ok listed).choose_spec).1
  · exact (avoids.of_follows (follows_of_generate wellFormed ok listed).choose_spec).2
  · rw [constants]
    exact fun table => avoids.of_mem_constants
  · rw [constants]
    exact fun table listed type known union named =>
      avoids.members_of_mem_constants wellFormed listed known union named

/-- A type is reported as unknown only where a field of the schema leads to nothing. -/
theorem exists_of_unresolvedType {owner name type : String}
    (fails : generate settings schema selected = .error (.unresolvedType owner name type)) :
    ∃ container ∈ schema.types, ∃ field ∈ container.fields, field.type.innermost = type ∧
      schema.target field = .error (.unresolvedType owner name type) := by
  rcases generate_error fails with fault | unknown | unscoped
  · cases fault with
    | unresolved container field known declared unresolved =>
      obtain ⟨-, -, rfl⟩ := Error.unresolvedType.inj (Schema.target_eq_error unresolved)
      exact ⟨container, known, field, declared, rfl, unresolved⟩
    | malformedKey entity selection _ _ malformed =>
      obtain ⟨cause, same⟩ := KeyTree.parse_eq_error malformed
      cases same
  · cases unknown
  · cases scope_eq_error unscoped

theorem querySyntax_of_ofDocuments {queries : List String} {fault : Error}
    (fails : SelectedRoots.ofDocuments queries = .error fault) :
    ∃ position, fault = .querySyntax position := by
  unfold SelectedRoots.ofDocuments at fails
  cases read : queries.mapM SelectedRoots.readDocument with
  | ok documents =>
    rw [read] at fails
    cases fails
  | error other =>
    rw [read] at fails
    obtain rfl := Except.error.inj fails
    obtain ⟨text, -, unread⟩ := exists_of_mapM_error read
    unfold SelectedRoots.readDocument at unread
    split at unread
    · cases unread
    · exact ⟨_, (Except.error.inj unread).symm⟩

/-- Generation from documents is generation for their schema, if the operations can be read. -/
theorem generateFromDocuments_cases {schemas : List String}
    (read : Schema.ofDocuments schemas settings = .ok schema) (queries : List String) :
    (∃ selected, generateFromDocuments settings schemas queries =
        generate settings schema selected) ∨
      ∃ position, generateFromDocuments settings schemas queries =
        .error (.querySyntax position) := by
  unfold generateFromDocuments
  rw [read]
  cases unselected : queries.isEmpty with
  | true => exact .inl ⟨none, rfl⟩
  | false =>
    cases queried : SelectedRoots.ofDocuments queries with
    | ok selected => exact .inl ⟨some selected, rfl⟩
    | error fault =>
      obtain ⟨position, rfl⟩ := querySyntax_of_ofDocuments queried
      exact .inr ⟨position, rfl⟩

/-- The skip directive is respected from the documents to the output. -/
structure RespectsSkips (settings : Settings) (schemas queries : List String)
    (declarations : List Schema.Declaration) (schema : Schema) : Prop where
  /-- The types are those declared, without the dropped ones and what is dropped of the others. -/
  kept : List.Forall₂ (TypeDefinition.KeptFrom settings.skipDirective
      (Schema.drops declarations settings.skipDirective))
    ((Schema.mergedTypes declarations).filter fun type =>
      !Schema.drops declarations settings.skipDirective type.name) schema.types
  avoided : ∀ output, generateFromDocuments settings schemas queries = .ok output →
    output.Avoids settings schema (Schema.drops declarations settings.skipDirective)
  /-- A type that is declared is not reported as unknown. -/
  resolved : ∀ owner field type, generateFromDocuments settings schemas queries =
    .error (.unresolvedType owner field type) → ¬Schema.Declares declarations type

theorem respectsSkips_of_read {schemas : List String} {documents : List (List Schema.Declaration)}
    (read : schemas.mapM Schema.readDocument = .ok documents) (settings : Settings)
    (queries : List String) : ∃ schema, Schema.ofDocuments schemas settings = .ok schema ∧
      RespectsSkips settings schemas queries documents.flatten schema := by
  have distinct := (Schema.mergedTypes_areDistinct (Schema.declared_named read)).distinct
  have kept := Schema.types_assemble distinct settings
  have assembled : Schema.ofDocuments schemas settings =
      .ok (Schema.assemble documents.flatten settings) := by
    unfold Schema.ofDocuments
    rw [read]
    rfl
  have wellFormed := Schema.wellFormed_of_ofDocuments assembled
  refine ⟨_, assembled, kept, fun output ok => ?_, fun owner field type fails => ?_⟩
  · rcases generateFromDocuments_cases assembled queries with ⟨selected, same⟩ | ⟨position, same⟩
    · exact avoids_of_generate wellFormed (Schema.avoids_of_kept kept) (same.symm.trans ok)
    · cases same.symm.trans ok
  · rcases generateFromDocuments_cases assembled queries with ⟨selected, same⟩ | ⟨position, same⟩
    · obtain ⟨container, known, field, declared, rfl, unresolved⟩ :=
        exists_of_unresolvedType (same.symm.trans fails)
      exact Schema.not_declares_of_target distinct known declared unresolved
    · cases same.symm.trans fails

def countedDocument : String :=
  "type Query \x7b find: Result stats: Stats \x7d
  union Result = Show | Stats
  type Show @key(fields: \"id stats\") \x7b id: ID stats: Stats \x7d
  type Stats \x7b views: Int \x7d"

def markingDocument : String := "extend type Stats @skipcodegen"

theorem respectsSkips_markingDocument : ∃ documents schema output,
    [countedDocument, markingDocument].mapM Schema.readDocument = .ok documents ∧
      Schema.ofDocuments [countedDocument, markingDocument] .standard = .ok schema ∧
      generateFromDocuments .standard [countedDocument, markingDocument] [] = .ok output ∧
      Schema.drops documents.flatten Settings.standard.skipDirective "Stats" = true ∧
      output.representations.map (·.fieldNames) = [["__typename", "id"]] ∧
      RespectsSkips .standard [countedDocument, markingDocument] [] documents.flatten schema := by
  have checked : ([countedDocument, markingDocument].mapM Schema.readDocument).toOption.any
      (fun documents =>
        (generateFromDocuments .standard [countedDocument, markingDocument] []).toOption.any
          fun output =>
            Schema.drops documents.flatten Settings.standard.skipDirective "Stats" &&
              decide (output.representations.map (·.fieldNames) = [["__typename", "id"]])) = true := by
    decide +kernel
  obtain ⟨documents, read, checked⟩ := exists_of_any checked
  obtain ⟨output, ok, checked⟩ := exists_of_any checked
  rw [Bool.and_eq_true, decide_eq_true_eq] at checked
  obtain ⟨schema, assembled, respects⟩ := respectsSkips_of_read read .standard []
  exact ⟨documents, schema, output, read, assembled, ok, checked.1, checked.2, respects⟩

end Generation
end GraphQLProjections
