import GraphQLProjections.Proofs.Generation.Skipping

/-! Fields of unknown types. A type is unknown if it is not among the types of the schema, not built
in and not mapped. Generation fails for such a field only if the schema has it, and if it succeeds
then there is none where it has looked: among the fields of the included root types, of the
projected types, whatever the depth bound cuts, and of the keys that are represented. -/
namespace GraphQLProjections

open Generation

namespace Schema

variable {schema : Schema}

/-- The name of no type of the schema, no built-in scalar and no mapped type. -/
def Unknown (schema : Schema) (mapped : List String) (name : String) : Prop :=
  (∀ type ∈ schema.types, type.name ≠ name) ∧ name ∉ builtinScalars ∧ name ∉ mapped

/-- Exactly a field of unknown type leads nowhere. -/
theorem unknown_iff {field : FieldDefinition} :
    schema.Unknown schema.mapped field.type.innermost ↔
      ∃ fault, schema.target field = .error fault := by
  have undeclared : (∀ type ∈ schema.types, type.name ≠ field.type.innermost) ↔
      schema.type? field.type.innermost = none := by
    simp [type?]
  unfold Unknown target
  rw [undeclared]
  by_cases mapped : field.type.innermost ∈ schema.mapped
  · simp [mapped]
  · cases found : schema.type? field.type.innermost with
    | some type => simp [found, mapped]
    | none => by_cases builtin : field.type.innermost ∈ builtinScalars <;>
        simp [isKnownScalar, found, mapped, builtin]

theorem not_unknown_of_target {field : FieldDefinition} {target : FieldTarget}
    (leads : schema.target field = .ok target) :
    ¬schema.Unknown schema.mapped field.type.innermost := by
  rw [unknown_iff]
  rintro ⟨fault, fails⟩
  cases leads.symm.trans fails

/-- A value of a representation is typed by a field of the type, and the field leads somewhere. -/
def Offers (schema : Schema) (type : TypeDefinition) (value : RepresentationField) : Prop :=
  ∃ field ∈ type.fields, field.name = value.name ∧ field.type = value.type ∧
    ∃ target, schema.target field = .ok target

end Schema

def Representation.Offered (schema : Schema) (representation : Representation) : Prop :=
  representation.fields = [] ∨ ∃ type ∈ schema.types, type.name = representation.type ∧
    ∃ values, representation.fields = typeNameField representation.type :: values ∧
      ∀ value ∈ values, schema.Offers type value

/-! ### Representations -/

namespace Cataloguing

variable {α β : Type} {good : Representation → Prop} {gives : α → Prop} {gives' : β → Prop}

/-- A step keeps what holds of all representations, and tells something of what it gives. -/
def Maintains (good : Representation → Prop) (step : Cataloguing α) (gives : α → Prop) : Prop :=
  ∀ catalogue, (∀ representation ∈ catalogue.representations.toList, good representation) →
    Ensures step catalogue (fun _ _ => True) fun value later =>
      (∀ representation ∈ later.representations.toList, good representation) ∧ gives value

namespace Maintains

theorem pure {value : α} (holds : gives value) :
    Maintains good (pure value : Cataloguing α) gives :=
  fun _ kept => Ensures.pure ⟨kept, holds⟩

theorem bind {step : Cataloguing α} {next : α → Cataloguing β} (first : Maintains good step gives)
    (second : ∀ value, gives value → Maintains good (next value) gives') :
    Maintains good (step >>= next) gives' := by
  intro catalogue kept
  apply (first catalogue kept).bind
  exact fun value later ⟨kept', holds⟩ => second value holds later kept'

theorem throw (fault : Error) : Maintains good (throw fault : Cataloguing α) gives :=
  fun _ _ => Ensures.throw trivial

theorem bind_ofExcept {result : Except Error α} {next : α → Cataloguing β}
    (second : ∀ value, result = .ok value → Maintains good (next value) gives') :
    Maintains good (Cataloguing.ofExcept result >>= next) gives' := by
  intro catalogue kept
  cases result with
  | ok value => exact second value rfl catalogue kept
  | error fault => trivial

end Maintains

theorem claim_maintains (type : TypeDefinition) :
    Maintains good (claim type) fun _ => True :=
  fun _ kept => ⟨kept, trivial⟩

theorem enter_maintains {name : String} {type : TypeDefinition}
    (holds : good ⟨name, type.name, []⟩) :
    Maintains good (enter name type) fun _ => True := by
  intro catalogue kept
  refine (enter_ensures name type).giving ?_
  rintro _ _ ⟨-, rfl⟩
  refine ⟨?_, trivial⟩
  rw [Array.toList_push]
  exact List.forall_mem_append.mpr ⟨kept, List.forall_mem_singleton.mpr holds⟩

theorem complete_maintains {index : Nat} {representation : Representation}
    (holds : good representation) :
    Maintains good (complete index representation) fun _ => True := by
  intro catalogue kept
  refine (complete_ensures index representation).giving ?_
  rintro _ _ rfl
  refine ⟨fun other listed => ?_, trivial⟩
  rw [Array.toList_setIfInBounds] at listed
  rcases List.mem_or_eq_of_mem_set listed with listed | rfl
  · exact kept other listed
  · exact holds

variable {schema : Schema}

theorem cons_maintains {type : TypeDefinition} {value : RepresentationField}
    {step : Cataloguing (List RepresentationField)} (offers : schema.Offers type value)
    (others : Maintains good step fun values => ∀ value ∈ values, schema.Offers type value) :
    Maintains good (do
      let fields ← step
      return value :: fields) fun values => ∀ value ∈ values, schema.Offers type value :=
  others.bind fun _ offered => .pure (List.forall_mem_cons.mpr ⟨offers, offered⟩)

/-- Whatever is represented, the representations have what their types offer. -/
theorem represent_maintains (type : TypeDefinition) (tree : KeyTree) (known : type ∈ schema.types) :
    Maintains (Representation.Offered schema) (represent schema type tree) fun _ => True := by
  revert known
  refine represent_induction
    (fun type _ step => type ∈ schema.types →
      Maintains (Representation.Offered schema) step fun _ => True)
    (fun type _ step => Maintains (Representation.Offered schema) step
      fun values => ∀ value ∈ values, schema.Offers type value)
    ?_ ?_ ?_ ?_ ?_ ?_ type tree
  · intro type selected fields known
    unfold represent
    refine (claim_maintains type).bind fun claimed _ => ?_
    obtain ⟨name, isNew⟩ := claimed
    cases isNew with
    | false => exact .pure trivial
    | true =>
      refine (enter_maintains (.inl rfl)).bind fun index _ => fields.bind fun values offered => ?_
      refine (complete_maintains (.inr ?_)).bind fun _ _ => .pure trivial
      exact ⟨type, known, rfl, values, rfl, offered⟩
  · exact .pure (List.forall_mem_nil _)
  · exact fun _ ih => ih
  · exact fun _ _ => .throw _
  · intro type name group rest field target step found leads _ ih
    exact cons_maintains ⟨field, List.mem_of_find?_eq_some found, rfl, rfl, target, leads⟩ ih
  · intro type name group rest field other first step found leads _ nested ih
    refine (nested (Schema.mem_types_of_target leads)).bind fun _ _ => cons_maintains ?_ ih
    exact ⟨field, List.mem_of_find?_eq_some found, rfl, rfl, .composite other, leads⟩

theorem representEntity_maintains {entity : TypeDefinition} (known : entity ∈ schema.types) :
    Maintains (Representation.Offered schema) (representEntity schema entity) fun _ => True := by
  apply Maintains.bind_ofExcept
  intro keys _
  split
  · exact .pure trivial
  · exact (represent_maintains entity _ known).bind fun _ _ => .pure trivial

theorem representAll_maintains {entities : List TypeDefinition}
    (known : ∀ entity ∈ entities, entity ∈ schema.types) :
    Maintains (Representation.Offered schema) (representAll schema entities) fun _ => True := by
  induction entities with
  | nil => exact .pure trivial
  | cons entity rest ih =>
    have first : Maintains (Representation.Offered schema)
        (discard (representEntity schema entity)) fun _ => True :=
      (representEntity_maintains (known entity List.mem_cons_self)).bind fun _ _ => .pure trivial
    exact first.bind fun _ _ => ih fun other member => known other (List.mem_cons_of_mem _ member)

end Cataloguing

/-! ### Runs -/

/-- No field that a generation has looked at is of an unknown type. The root of the look-up of
entities is of no type of the schema. -/
structure Output.Resolved (output : Output) (settings : Settings) (schema : Schema)
    (unknown : String → Prop) : Prop where
  /-- All fields of the type count, also those that the depth bound cuts. -/
  projections : ∀ node ∈ output.projections, node.kind ≠ .argumentWrapper →
    output.entitiesRoot? settings schema ≠ some node.name →
    ∃ type, schema.type? node.type = some type ∧
      ∀ field ∈ type.fields, ¬unknown field.type.innermost
  roots : ∀ kind type, (kind, type) ∈ schema.rootTypes → includes settings kind = true →
    ∀ field ∈ type.fields, ¬unknown field.type.innermost
  representations : ∀ representation ∈ output.representations,
    ∃ type, schema.type? representation.type = some type ∧ ∃ values,
      representation.fields = Representation.typeNameField representation.type :: values ∧
      ∀ value ∈ values, ∃ field ∈ type.fields, field.name = value.name ∧ field.type = value.type ∧
        ¬unknown field.type.innermost

/-- A projection that is not filtered is for arguments, looks entities up, or is for a type of which
no field is of an unknown type. -/
theorem Complete.resolved {schema : Schema} (wellFormed : schema.WellFormed)
    {maxDepth : Option Nat} {openings : List Opening} {others : List (List String × String)}
    {workspace : Workspace} (complete : Complete ⟨schema, maxDepth⟩ openings others workspace)
    {opening : Opening} (member : opening ∈ openings) (plain : opening.Unfiltered) :
    opening.kind = .argumentWrapper ∨
      (opening.kind = .root ∧ ∃ types, opening.purpose = .entities types) ∨
      ∃ type, schema.type? opening.purpose.typeName = some type ∧
        ∀ field ∈ type.fields, ¬schema.Unknown schema.mapped field.type.innermost := by
  have scope := plain.scope
  have resolves := (complete.settled member).1
  have within := (complete.grounded opening member).within
  unfold Spot.Unfiltered at plain
  cases purpose : opening.purpose with
  | arguments field =>
    rw [purpose] at plain
    exact .inl plain
  | entities types =>
    rw [purpose] at plain
    exact .inr (.inl ⟨plain, types, rfl⟩)
  | type type trail filter =>
    rw [purpose] at within
    refine .inr (.inr ⟨type, wellFormed.type?_name within, fun field declared => ?_⟩)
    have inside : field ∈ opening.purpose.fields := by rwa [purpose]
    obtain ⟨target, leads⟩ := resolves field inside (by rw [scope]; rfl)
    exact Schema.not_unknown_of_target leads

/-- Every field of an included root type leads somewhere, unless operations are selected. -/
theorem Carried.resolved_root {settings : Settings} {schema : Schema}
    {selected : Option SelectedRoots} {openings : List Opening}
    {operations : List OperationDescriptor} {representations : List Representation}
    {workspace : Workspace}
    (carried : Carried settings schema selected openings operations representations workspace)
    (all : settings.definedOnly = false) {kind : OperationKind} {type : TypeDefinition}
    (listed : (kind, type) ∈ schema.rootTypes) (included : includes settings kind = true)
    {field : FieldDefinition} (declared : field ∈ type.fields) :
    ∃ target, schema.target field = .ok target := by
  have asked : ⟨kind, field, none⟩ ∈ rootFields settings schema selected := by
    refine mem_rootFieldsOf.mpr ⟨type, listed, included, declared, ?_⟩
    rw [keptRoots, if_neg (by simp [all])]
    rfl
  obtain ⟨path, planned⟩ : ∃ path, (path, _) ∈ plan settings schema selected := mem_planAfter asked
  obtain ⟨firsts, last, -, described, -⟩ := carried.described
  obtain ⟨operation, -, describes⟩ := exists_right_of_forall₂ described planned
  exact describes.resolved

namespace Generation

variable {settings : Settings} {schema : Schema} {selected : Option SelectedRoots}

theorem entityOperations_offered {traversal : Traversal} (workspace : Workspace) :
    Ensures (entityOperations settings traversal) workspace (fun _ _ => True) fun result _ =>
      ∀ representation ∈ result.2, representation.Offered traversal.schema := by
  unfold entityOperations
  dsimp only
  split
  · exact .pure (List.forall_mem_nil _)
  · refine (Tells.of_holds trivial _).bind fun path _ _ => ?_
    refine (Tells.of_holds trivial _).bind fun root _ _ => ?_
    refine (Tells.of_holds trivial _).bind fun projectionRoot middle _ => ?_
    have represented : Ensures (entityRepresentations traversal.schema traversal.schema.entities)
        middle (fun _ _ => True) fun representations _ =>
          ∀ representation ∈ representations, representation.Offered traversal.schema := by
      apply entityRepresentations_of_representAll
      exact (Cataloguing.representAll_maintains (fun _ => mem_types_of_entities) _
        (by simp)).giving fun _ _ => And.left
    refine represented.bind fun representations _ offered => ?_
    exact (Tells.of_holds trivial _).bind fun name _ _ => .pure offered

/-- The representations of a run have the fields that their types offer. -/
theorem offered_of_generate {output : Output}
    (ok : generate settings schema selected = .ok output) {representation : Representation}
    (listed : representation ∈ output.representations) : representation.Offered schema := by
  obtain ⟨kept, operations, representations, workspace, -, ran, rfl, -⟩ := generate_eq_ok.mp ok
  have offered : Ensures (run settings schema kept) (.empty settings.shortNames)
      (fun _ _ => True) fun result _ => ∀ representation ∈ result.2,
        representation.Offered schema := by
    refine (Tells.of_holds trivial _).bind fun operations later _ => ?_
    refine (entityOperations_offered later).bind fun result last offered => ?_
    exact .pure offered
  exact offered.of_ok ran representation listed

/-- A representation has only fields that its type has, and none of an unknown type. -/
theorem resolved_representation (wellFormed : schema.WellFormed) {output : Output}
    (ok : generate settings schema selected = .ok output) {representation : Representation}
    (listed : representation ∈ output.representations) :
    ∃ type, schema.type? representation.type = some type ∧ ∃ values,
      representation.fields = Representation.typeNameField representation.type :: values ∧
      ∀ value ∈ values, ∃ field ∈ type.fields, field.name = value.name ∧ field.type = value.type ∧
        ¬schema.Unknown schema.mapped field.type.innermost := by
  obtain ⟨planned, follows⟩ := follows_of_generate wellFormed ok listed
  obtain ⟨_, _, -, filled, -⟩ := follows.fields
  rcases offered_of_generate ok listed with empty | ⟨type, known, typed, values, fields, offered⟩
  · cases empty.symm.trans filled
  · refine ⟨type, typed ▸ wellFormed.type?_name known, values, fields, fun value kept => ?_⟩
    obtain ⟨field, declared, named, same, target, leads⟩ := offered value kept
    exact ⟨field, declared, named, same, Schema.not_unknown_of_target leads⟩

/-- Unless operations are selected, a generation that succeeds has looked at no field of an unknown
type. -/
theorem resolved_of_generate (wellFormed : schema.WellFormed) (all : settings.definedOnly = false)
    {output : Output} (ok : generate settings schema selected = .ok output) :
    output.Resolved settings schema (schema.Unknown schema.mapped) := by
  obtain ⟨openings, workspace, carried, nodes⟩ := carried_of_generate wellFormed ok
  obtain ⟨others, paths, standing⟩ := carried.standing
  refine ⟨?_, fun kind type listed included field declared => ?_,
    fun _ => resolved_representation wellFormed ok⟩
  · rw [nodes]
    refine List.forall_mem_map.mpr fun opening member kind apart => ?_
    have plain := unfiltered_of_standing all standing opening member
    rcases standing.complete.resolved wellFormed member plain with wrapper | entities | resolved
    · exact absurd wrapper kind
    · obtain ⟨isRoot, types, purpose⟩ := entities
      exact absurd (carried.entitiesRoot? rfl member isRoot purpose) apart
    · exact resolved
  · obtain ⟨target, leads⟩ := carried.resolved_root all listed included declared
    exact Schema.not_unknown_of_target leads

/-- A generation fails for a field only if the schema has the field and its type is unknown, and
succeeds only if it has looked at no such field, unless operations are selected. -/
structure ReportsUnresolved (settings : Settings) (schema : Schema)
    (selected : Option SelectedRoots) (unknown : String → Prop) : Prop where
  reported : ∀ owner name type,
    generate settings schema selected = .error (.unresolvedType owner name type) →
    unknown type ∧ ∃ container, schema.type? owner = some container ∧
      ∃ field ∈ container.fields, field.name = name ∧ field.type.innermost = type
  resolved : settings.definedOnly = false → ∀ output,
    generate settings schema selected = .ok output → output.Resolved settings schema unknown

/-- Fields of unknown types are reported exactly. -/
theorem reportsUnresolved_of_read {texts : List String} {reading : Settings}
    (read : Schema.ofDocuments texts reading = .ok schema) (settings : Settings)
    (selected : Option SelectedRoots) :
    ReportsUnresolved settings schema selected (schema.Unknown reading.typeMapping.names) := by
  have wellFormed := Schema.wellFormed_of_ofDocuments read
  rw [← Schema.mapped_of_ofDocuments read]
  refine ⟨fun owner name type fails => ?_, fun all output => resolved_of_generate wellFormed all⟩
  obtain ⟨container, known, field, declared, rfl, unresolved⟩ := exists_of_unresolvedType fails
  obtain ⟨rfl, rfl, -⟩ := Error.unresolvedType.inj (Schema.target_eq_error unresolved)
  have owned := ((wellFormed.named container known).fields field declared).owned
  exact ⟨Schema.unknown_iff.mpr ⟨_, unresolved⟩, container,
    owned ▸ wellFormed.type?_name known, field, declared, rfl, rfl⟩

def airedDocument : String :=
  "type Query \x7b show: Show \x7d
  extend type Mutation \x7b drop: Lost \x7d
  type Show @key(fields: \"id aired\") \x7b id: ID aired: Date \x7d"

def readOnlySettings : Settings :=
  { Settings.standard.withMapping "Date" "LocalDate" with mutations := false }

theorem reportsUnresolved_airedDocument : ∃ schema output,
    Schema.ofDocuments [airedDocument] readOnlySettings = .ok schema ∧
      generate readOnlySettings schema none = .ok output ∧
      output.representations.map (·.fieldNames) = [["__typename", "id", "aired"]] ∧
      ReportsUnresolved readOnlySettings schema none
        (schema.Unknown readOnlySettings.typeMapping.names) ∧
      generate .standard schema none = .error (.unresolvedType "Mutation" "drop" "Lost") ∧
      ReportsUnresolved .standard schema none
        (schema.Unknown readOnlySettings.typeMapping.names) := by
  obtain ⟨schema, output, read, ok, checked⟩ := exists_generated_with readOnlySettings airedDocument
    (fun schema output =>
      decide (output.representations.map (·.fieldNames) = [["__typename", "id", "aired"]]) &&
        match generate .standard schema none with
        | .ok _ => false
        | .error fault => decide (fault = .unresolvedType "Mutation" "drop" "Lost"))
    (by decide +kernel)
  obtain ⟨keyed, checked⟩ := Bool.and_eq_true_iff.mp checked
  refine ⟨schema, output, read, ok, of_decide_eq_true keyed,
    reportsUnresolved_of_read read _ none, ?_, reportsUnresolved_of_read read .standard none⟩
  split at checked
  · cases checked
  next fault fails => rw [fails, of_decide_eq_true checked]

end Generation
end GraphQLProjections
