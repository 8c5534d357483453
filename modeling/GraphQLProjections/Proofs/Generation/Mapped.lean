import GraphQLProjections.Proofs.Generation.Independence
import GraphQLProjections.Proofs.Generation.Placement
import GraphQLProjections.Proofs.Schema.Unions

/-! Types that are mapped to classes of other libraries. A field of a mapped type leads to a leaf,
so no projection of a field has such a type. Implementers, members and entities are taken as the
schema has them: a mapped one gets a fragment like any other. -/
namespace GraphQLProjections

open Generation

/-- No fragment is on a type with one of the names, and no projection is of such a type. What holds
the arguments of a leaf is no projection of its type. -/
def Output.SparesMapped (output : Output) (mapped : List String) : Prop :=
  ∀ node ∈ output.projections, (node.kind ≠ .argumentWrapper → node.type ∉ mapped) ∧
    ∀ accessor ∈ node.fragments, accessor.type ∉ mapped

instance (output : Output) (mapped : List String) : Decidable (output.SparesMapped mapped) :=
  inferInstanceAs (Decidable (∀ node ∈ output.projections, _ ∧ ∀ accessor ∈ node.fragments, _))

def Output.Spares (output : Output) (name : String) : Prop :=
  ∀ node ∈ output.projections, (node.kind ≠ .argumentWrapper → node.type ≠ name) ∧
    ∀ accessor ∈ node.fragments, accessor.type ≠ name

theorem Output.sparesMapped_iff_forall {output : Output} {mapped : List String} :
    output.SparesMapped mapped ↔ ∀ name ∈ mapped, output.Spares name := by
  constructor
  · intro spares name mapped node member
    exact ⟨fun kind same => (spares node member).1 kind (same ▸ mapped),
      fun accessor listed same => (spares node member).2 accessor listed (same ▸ mapped)⟩
  · intro spares node member
    exact ⟨fun kind mapped => (spares _ mapped node member).1 kind rfl,
      fun accessor listed mapped => (spares _ mapped node member).2 accessor listed rfl⟩

theorem Schema.notMem_mapped_of_target {schema : Schema} {field : FieldDefinition}
    {type : TypeDefinition} (leads : schema.target field = .ok (.composite type)) :
    type.name ∉ schema.mapped := by
  obtain ⟨unmapped, found, -⟩ := target_eq_composite.mp leads
  rw [name_of_type? found]
  intro mapped
  exact Bool.false_ne_true (unmapped.symm.trans (List.contains_iff_mem.mpr mapped))

theorem Schema.mapped_of_ofDocuments {texts : List String} {reading : Settings} {schema : Schema}
    (read : Schema.ofDocuments texts reading = .ok schema) :
    schema.mapped = reading.typeMapping.names := by
  obtain ⟨documents, -, rfl⟩ := Schema.exists_documents read
  rfl

/-- A type of this name is no implementer, no member and no entity, so only fields lead to it. -/
def Schema.FieldsOnly (schema : Schema) (name : String) : Prop :=
  ∀ type ∈ schema.types, name ∉ type.memberNames ∧
    (type.name = name → type.interfaces = [] ∧ carries type.directives "key" = false)

instance (schema : Schema) (name : String) : Decidable (schema.FieldsOnly name) :=
  inferInstanceAs (Decidable (∀ type ∈ schema.types, _ ∧ _))

namespace Schema.FieldsOnly

variable {schema : Schema} {type : TypeDefinition} (only : schema.FieldsOnly type.name)
include only

theorem notMem_concreteTypes (known : type ∈ schema.types) (container : TypeDefinition) :
    type ∉ schema.concreteTypes container := by
  intro concrete
  unfold concreteTypes at concrete
  split at concrete
  · have implements := (Bool.and_eq_true _ _ ▸ (List.mem_filter.mp concrete).2).2
    simp [((only type known).2 rfl).1] at implements
  · split at concrete
    · unfold members at concrete
      split at concrete
      next names declared =>
        obtain ⟨union, found, content⟩ := Option.map_eq_some_iff.mp declared
        obtain ⟨name, listed, found'⟩ := List.mem_filterMap.mp concrete
        have named : type.name ∈ union.memberNames := by
          rw [name_of_type? found']
          simpa [TypeDefinition.memberNames, content] using listed
        exact (only union (mem_types_of_type? found)).1 named
      next => exact List.not_mem_nil concrete
    · exact List.not_mem_nil concrete

theorem notMem_entities (known : type ∈ schema.types) : type ∉ schema.entities := by
  intro entity
  have keyed := (Bool.and_eq_true _ _ ▸ (List.mem_filter.mp entity).2).2
  exact Bool.false_ne_true (((only type known).2 rfl).2.symm.trans keyed)

end Schema.FieldsOnly

namespace Traversal

variable {traversal : Traversal} {spot request : Spot}

theorem of_accessorAt {link : List String → Option Link} {type : TypeDefinition}
    {accessor : FragmentAccessor} (made : accessorAt link spot type = some accessor) :
    accessor.type = type.name ∧ (requestOfType spot type).isSome := by
  obtain ⟨request, requested, linked⟩ := Option.bind_eq_some_iff.mp made
  obtain ⟨target, -, rfl⟩ := Option.map_eq_some_iff.mp linked
  exact ⟨rfl, Option.isSome_of_eq_some requested⟩

theorem unmapped_of_requestOfField {field : FieldDefinition}
    (requested : traversal.requestOfField spot field = some request)
    (kind : request.kind ≠ .argumentWrapper) :
    request.purpose.typeName ∉ traversal.schema.mapped := by
  obtain ⟨filter, -, -, ⟨-, -, rfl⟩ | ⟨type, leads, rfl⟩⟩ := requestOfField_eq_some.mp requested
  · exact absurd rfl kind
  · exact Schema.notMem_mapped_of_target leads

theorem typeName_of_requestOfType {type : TypeDefinition}
    (requested : requestOfType spot type = some request) :
    request.purpose.typeName = type.name := by
  obtain ⟨filter, -, rfl⟩ := Option.map_eq_some_iff.mp requested
  rfl

end Traversal

/-- The fragments of a projection are on the types for which its spot requests one. -/
theorem Complete.exists_fragment_iff {traversal : Traversal} {openings : List Opening}
    {others : List (List String × String)} {workspace : Workspace}
    (complete : Complete traversal openings others workspace) {opening : Opening}
    (member : opening ∈ openings) (name : String) :
    (∃ accessor ∈ (traversal.render workspace.linkAt opening).fragments, accessor.type = name) ↔
      ∃ type ∈ opening.purpose.types traversal.schema,
        (Traversal.requestOfType opening.toSpot type).isSome ∧ type.name = name := by
  constructor
  · rintro ⟨accessor, listed, rfl⟩
    obtain ⟨type, known, made⟩ := List.mem_filterMap.mp listed
    obtain ⟨same, requested⟩ := Traversal.of_accessorAt made
    exact ⟨type, known, requested, same.symm⟩
  · rintro ⟨type, known, requested, rfl⟩
    obtain ⟨request, requested⟩ := Option.isSome_iff_exists.mp requested
    have answered := complete.answered member
      (Traversal.mem_requests.mpr (.inr ⟨type, known, requested⟩))
    obtain ⟨link, linked⟩ := Option.isSome_iff_exists.mp answered
    refine ⟨⟨type.name, link⟩, List.mem_filterMap.mpr ⟨type, known, ?_⟩, rfl⟩
    simp [Traversal.accessorAt, requested, linked]

namespace Generation

variable {settings : Settings} {schema : Schema} {selected : Option SelectedRoots}

/-- No placed spot requests a fragment on a mapped type, and the union of entities is not mapped if
they are looked up. -/
structure FragmentsUnmapped (settings : Settings) (schema : Schema)
    (selected : Option SelectedRoots) : Prop where
  concrete : ∀ root spot, Traversal.Placed ⟨schema, settings.maxDepth⟩
      (plannedSpots settings schema selected) root spot →
    ∀ type ∈ spot.purpose.types schema, (Traversal.requestOfType spot type).isSome →
      type.name ∉ schema.mapped
  lookUp : looksUp settings schema = true → Traversal.entityUnion ∉ schema.mapped

structure FragmentsAvoid (settings : Settings) (schema : Schema) (selected : Option SelectedRoots)
    (name : String) : Prop where
  concrete : ∀ root spot, Traversal.Placed ⟨schema, settings.maxDepth⟩
      (plannedSpots settings schema selected) root spot →
    ∀ type ∈ spot.purpose.types schema, (Traversal.requestOfType spot type).isSome →
      type.name ≠ name
  lookUp : looksUp settings schema = true → Traversal.entityUnion ≠ name

theorem fragmentsUnmapped_iff : FragmentsUnmapped settings schema selected ↔
    ∀ name ∈ schema.mapped, FragmentsAvoid settings schema selected name := by
  constructor
  · rintro ⟨concrete, lookUp⟩ name mapped
    exact ⟨fun root spot placed type member requested same =>
      concrete root spot placed type member requested (same ▸ mapped),
      fun asked same => lookUp asked (same ▸ mapped)⟩
  · intro avoids
    exact ⟨fun root spot placed type member requested mapped =>
      (avoids _ mapped).concrete root spot placed type member requested rfl,
      fun asked mapped => (avoids _ mapped).lookUp asked rfl⟩

theorem typeName_ne_of_planned {spot : Spot}
    (planned : spot ∈ plannedSpots settings schema selected) {name : String}
    (mapped : name ∈ schema.mapped) (avoids : FragmentsAvoid settings schema selected name) :
    spot.purpose.typeName ≠ name := by
  rcases List.mem_append.mp planned with planned | asked
  · obtain ⟨⟨path, root⟩, -, made⟩ := List.mem_filterMap.mp planned
    obtain ⟨type, leads, rfl⟩ := spotOf_eq_some.mp made
    rintro rfl
    exact Schema.notMem_mapped_of_target leads mapped
  · obtain ⟨looksUp, -⟩ := Option.ite_none_right_eq_some.mp (Option.mem_toList.mp asked)
    obtain rfl := eq_of_mem_entitiesSpot? asked
    exact avoids.lookUp looksUp

/-- A projection is of a planned type, of what a field leads to, or of a type that another has a
fragment for. -/
theorem typeName_ne_of_opened {openings : List Opening} {others : List (List String × String)}
    {paths : List (List String)} {workspace : Workspace} (wellFormed : schema.WellFormed)
    (standing : Standing ⟨schema, settings.maxDepth⟩ openings others paths
      (plannedSpots settings schema selected) workspace)
    {name : String} (mapped : name ∈ schema.mapped)
    (avoids : FragmentsAvoid settings schema selected name) {opening : Opening}
    (member : opening ∈ openings) (kind : opening.kind ≠ .argumentWrapper) :
    opening.purpose.typeName ≠ name := by
  cases standing.complete.derived opening member with
  | root isRoot =>
    have planned := standing.mem_spots.mpr ⟨opening, member, isRoot, rfl⟩
    exact typeName_ne_of_planned planned mapped avoids
  | below parent inside _ _ _ _ _ first =>
    rcases Traversal.mem_requests.mp (List.mem_of_find?_eq_some first) with
      ⟨field, -, requested⟩ | ⟨type, listed, requested⟩
    · exact fun same => Traversal.unmapped_of_requestOfField requested kind (same ▸ mapped)
    · obtain ⟨root, placed⟩ := (standing.exists_opening_iff_placed
        (fun _ => length_le_two_of_mem_plannedSpots) wellFormed).mp ⟨parent, inside, rfl⟩
      rw [Traversal.typeName_of_requestOfType requested]
      exact avoids.concrete root _ placed type listed (Option.isSome_of_eq_some requested)

/-- A generation spares a mapped type exactly if it is not one of the concrete types that its
projections have fragments for. -/
theorem spares_iff {texts : List String} {reading : Settings}
    (read : Schema.ofDocuments texts reading = .ok schema) {output : Output}
    (ok : generate settings schema selected = .ok output) {name : String}
    (mapped : name ∈ reading.typeMapping.names) :
    output.Spares name ↔ FragmentsAvoid settings schema selected name := by
  have wellFormed := Schema.wellFormed_of_ofDocuments read
  rw [← Schema.mapped_of_ofDocuments read] at mapped
  obtain ⟨openings, workspace, carried, nodes⟩ := carried_of_generate wellFormed ok
  obtain ⟨others, paths, standing⟩ := carried.standing
  have placed (spot : Spot) : (∃ opening ∈ openings, opening.toSpot = spot) ↔
      ∃ root, Traversal.Placed ⟨schema, settings.maxDepth⟩ (plannedSpots settings schema selected)
        root spot :=
    standing.exists_opening_iff_placed (fun _ => length_le_two_of_mem_plannedSpots) wellFormed
  have fragments {opening : Opening} (inside : opening ∈ openings) :=
    standing.complete.exists_fragment_iff inside name
  rw [Output.Spares, nodes, List.forall_mem_map]
  constructor
  · intro spares
    refine ⟨fun root spot isPlaced type member requested same => ?_, fun looksUp => ?_⟩
    · obtain ⟨opening, inside, rfl⟩ := (placed spot).mpr ⟨root, isPlaced⟩
      obtain ⟨accessor, listed, on⟩ := (fragments inside).mpr ⟨type, member, requested, same⟩
      exact (spares opening inside).2 accessor listed on
    · have planned : Traversal.entitiesSpot _ schema.entities ∈
          plannedSpots settings schema selected :=
        List.mem_append_right _ (Option.mem_toList.mpr (if_pos looksUp))
      obtain ⟨opening, inside, isRoot, same⟩ := standing.mem_spots.mp planned
      have type : opening.purpose.typeName = Traversal.entityUnion :=
        congrArg (·.purpose.typeName) same
      have isRoot : opening.kind ≠ .argumentWrapper := by simp [isRoot]
      exact type ▸ (spares opening inside).1 isRoot
  · intro avoids opening inside
    refine ⟨typeName_ne_of_opened wellFormed standing mapped avoids inside,
      fun accessor listed on => ?_⟩
    obtain ⟨type, member, requested, same⟩ := (fragments inside).mp ⟨accessor, listed, on⟩
    obtain ⟨root, isPlaced⟩ := (placed opening.toSpot).mp ⟨opening, inside, rfl⟩
    exact avoids.concrete root _ isPlaced type member requested same

/-- A generation spares mapped types exactly if none of them is one of the concrete types that its
projections have fragments for. -/
theorem sparesMapped_iff {texts : List String} {reading : Settings}
    (read : Schema.ofDocuments texts reading = .ok schema) {output : Output}
    (ok : generate settings schema selected = .ok output) :
    output.SparesMapped reading.typeMapping.names ↔
      FragmentsUnmapped settings schema selected := by
  rw [Output.sparesMapped_iff_forall, fragmentsUnmapped_iff, Schema.mapped_of_ofDocuments read]
  exact forall₂_congr fun name => spares_iff read ok

/-- The types of a placed spot are concrete types of another type, or the entities. -/
theorem types_of_placed {root spot : Spot}
    (placed : Traversal.Placed ⟨schema, settings.maxDepth⟩ (plannedSpots settings schema selected)
      root spot) {type : TypeDefinition} (member : type ∈ spot.purpose.types schema) :
    (∃ container, type ∈ schema.concreteTypes container) ∨ type ∈ schema.entities := by
  cases purpose : spot.purpose with
  | type container trail filter => exact .inl ⟨container, by rwa [purpose] at member⟩
  | arguments field => simp [purpose, Purpose.types] at member
  | entities types =>
    rw [purpose] at member
    -- Only the look-up of entities is for entities, and it is a root.
    cases placed with
    | root planned =>
      rcases List.mem_append.mp planned with planned | asked
      · obtain ⟨⟨path, field⟩, -, made⟩ := List.mem_filterMap.mp planned
        obtain ⟨type, -, rfl⟩ := spotOf_eq_some.mp made
        cases purpose
      · obtain rfl := eq_of_mem_entitiesSpot? asked
        obtain rfl := Purpose.entities.inj purpose
        exact .inr member
    | next _ first =>
      rcases Traversal.mem_requests.mp (List.mem_of_find?_eq_some first) with
        ⟨field, -, requested⟩ | ⟨type, -, requested⟩
      · obtain ⟨filter, -, -, ⟨-, -, rfl⟩ | ⟨type, -, rfl⟩⟩ :=
          Traversal.requestOfField_eq_some.mp requested <;> cases purpose
      · obtain ⟨filter, -, rfl⟩ := Option.map_eq_some_iff.mp requested
        cases purpose

/-- It suffices that only fields lead to mapped types. -/
theorem fragmentsUnmapped_of_fieldsOnly
    (only : ∀ name ∈ schema.mapped, schema.FieldsOnly name ∧ name ≠ Traversal.entityUnion) :
    FragmentsUnmapped settings schema selected := by
  refine ⟨fun root spot placed type member _ mapped => ?_, fun _ mapped => (only _ mapped).2 rfl⟩
  have apart := (only type.name mapped).1
  rcases types_of_placed placed member with ⟨container, concrete⟩ | entity
  · exact apart.notMem_concreteTypes (Schema.mem_types_of_concrete concrete) container concrete
  · exact apart.notMem_entities (mem_types_of_entities entity) entity

def statsDocument : String :=
  "type Query \x7b show: Show \x7d
  type Show \x7b title: String stats: Stats \x7d
  type Stats \x7b views: Int \x7d"

def statsSettings : Settings := Settings.standard.withMapping "Stats" "java.util.Map"

theorem sparesMapped_statsDocument : ∃ schema output,
    Schema.ofDocuments [statsDocument] statsSettings = .ok schema ∧
      generate statsSettings schema none = .ok output ∧
      (∃ node ∈ output.projections, node.methodNames = ["title", "stats"]) ∧
      output.SparesMapped statsSettings.typeMapping.names := by
  obtain ⟨schema, output, read, ok, holds⟩ := exists_generated_with statsSettings statsDocument
    (fun schema output => decide (∀ name ∈ schema.mapped, schema.FieldsOnly name ∧
      name ≠ Traversal.entityUnion) && decide (∃ node ∈ output.projections,
      node.methodNames = ["title", "stats"])) (by decide +kernel)
  simp only [Bool.and_eq_true, decide_eq_true_eq] at holds
  exact ⟨schema, output, read, ok, holds.2,
    (sparesMapped_iff read ok).mpr (fragmentsUnmapped_of_fieldsOnly holds.1)⟩

def unionDocument : String :=
  "type Query \x7b search: Result \x7d
  union Result = Movie | Actor
  type Movie \x7b title: String \x7d
  type Actor \x7b name: String \x7d"

def movieSettings : Settings := Settings.standard.withMapping "Movie" "java.util.Map"

/-- The root projection has a fragment on the mapped member. -/
theorem not_sparesMapped_unionDocument : ∃ schema output,
    movieSettings.fault? = none ∧
      Schema.ofDocuments [unionDocument] movieSettings = .ok schema ∧
      generate movieSettings schema none = .ok output ∧
      ¬output.SparesMapped movieSettings.typeMapping.names := by
  obtain ⟨schema, output, read, ok, holds⟩ := exists_generated_with movieSettings unionDocument
    (fun _ output => decide ¬output.SparesMapped movieSettings.typeMapping.names)
    (by decide +kernel)
  exact ⟨schema, output, by decide +kernel, read, ok, of_decide_eq_true holds⟩

end Generation
end GraphQLProjections
