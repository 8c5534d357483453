import GraphQLProjections.Proofs.Generation.Collisions
import GraphQLProjections.Proofs.Generation.Independence

/-! The operations of an output. There is one for each root field that a run is to include, in order,
and one for the look-up of entities; each has a name and a root projection that no other has. -/
namespace GraphQLProjections

open Generation

namespace Generation

variable {settings : Settings} {schema : Schema} {selected : Option SelectedRoots}

/-- The fields of the root types that the settings include; with selected roots to keep to, those
that are selected. -/
def operatedFields (settings : Settings) (schema : Schema) (selected : Option SelectedRoots) :
    List (OperationKind × FieldDefinition) :=
  (schema.rootTypes.filter fun entry => includes settings entry.1).flatMap fun entry =>
    (entry.2.fields.filter fun field =>
      (keptRoots settings selected).all fun roots => (roots.filter? entry.1 field.name).isSome).map
      (entry.1, ·)

theorem map_filterMap_rootFieldOf (selected : Option SelectedRoots) (kind : OperationKind)
    (fields : List FieldDefinition) :
    (fields.filterMap (rootFieldOf selected kind)).map (fun root => (root.kind, root.field)) =
      (fields.filter fun field =>
        selected.all fun roots => (roots.filter? kind field.name).isSome).map (kind, ·) := by
  rw [List.map_filterMap, ← List.filterMap_eq_filter, List.map_filterMap]
  apply List.filterMap_congr
  intro field _
  unfold rootFieldOf
  cases selected with
  | none => rfl
  | some roots => cases found : roots.filter? kind field.name <;> simp [Option.guard, found]

/-- What a run is to operate is told by its root fields. -/
theorem operatedFields_eq (settings : Settings) (schema : Schema)
    (selected : Option SelectedRoots) : operatedFields settings schema selected =
      (rootFields settings schema selected).map fun root => (root.kind, root.field) := by
  unfold operatedFields rootFields
  induction schema.rootTypes with
  | nil => rfl
  | cons entry rest ih =>
    obtain ⟨kind, type⟩ := entry
    rw [rootFieldsOf, List.map_append, ← ih]
    cases included : includes settings kind with
    | true => simp [included, map_filterMap_rootFieldOf]
    | false => simp [included]

theorem map_planAfter (taken : List (List String)) (roots : List RootField) :
    (planAfter taken roots).map (·.2) = roots := by
  induction roots generalizing taken with
  | nil => rfl
  | cons root rest ih => simp [planAfter, ih]

end Generation

namespace Output

def fieldOperations (output : Output) (settings : Settings) (schema : Schema) :
    List OperationDescriptor :=
  if looksUp settings schema then output.operations.dropLast else output.operations

def lookUpOperation? (output : Output) (settings : Settings) (schema : Schema) :
    Option OperationDescriptor :=
  if looksUp settings schema then output.operations.getLast? else none

/-- An operation for a root field. It starts at a root projection of the type that the field leads
to, unless that is a leaf. -/
structure Offers (output : Output) (schema : Schema) (asked : OperationKind × FieldDefinition)
    (operation : OperationDescriptor) : Prop where
  kind : operation.kind = asked.1
  field : operation.field = asked.2.name
  arguments : operation.arguments = asked.2.arguments
  leaf : operation.projectionRoot = none ↔ schema.target asked.2 = .ok .leaf
  root : ∀ name, operation.projectionRoot = some name →
    ∃ node, output.projection? name = some node ∧ node.kind = .root ∧
      node.type = asked.2.type.innermost

/-- The operation that looks up entities, which starts at a root projection of their union. -/
structure OffersLookUp (output : Output) (operation : OperationDescriptor) : Prop where
  kind : operation.kind = .query
  field : operation.field = entitiesField
  root : ∃ name node, operation.projectionRoot = some name ∧
    output.projection? name = some node ∧ node.kind = .root ∧ node.type = Traversal.entityUnion

/-- The operations are those of the fields to operate, in order, then that of the look-up, and no two
share a name or a root projection. -/
structure OffersAll (output : Output) (settings : Settings) (schema : Schema)
    (selected : Option SelectedRoots) : Prop where
  fields : List.Forall₂ (output.Offers schema) (operatedFields settings schema selected)
    (output.fieldOperations settings schema)
  lookUp : looksUp settings schema = true →
    ∃ operation, output.lookUpOperation? settings schema = some operation ∧
      output.OffersLookUp operation
  names : (output.operations.map (·.name)).Nodup
  roots : (output.operations.filterMap (·.projectionRoot)).Nodup

end Output

def RootNamed (openings : List Opening) (spot : Spot) (name : String) : Prop :=
  ∃ root ∈ openings, root.toSpot = spot ∧ root.name = name

section Describes

variable {traversal : Traversal} {openings : List Opening} {others : List (List String × String)}
  {workspace : Workspace} {planned : List String × RootField} {operation : OperationDescriptor}

/-- An operation has a root projection where the plan has a spot for one. -/
theorem Describes.rootNamed (describes : Describes traversal openings workspace planned operation) :
    Option.Rel (RootNamed openings) (spotOf traversal.schema planned) operation.projectionRoot := by
  obtain ⟨target, leads⟩ := describes.resolved
  cases target with
  | leaf =>
    rw [describes.leaf leads, spotOf, leads]
    exact .none
  | composite type =>
    obtain ⟨root, member, spot, named⟩ := describes.composite type leads
    rw [named, spotOf, leads]
    exact .some ⟨root, member, spot, rfl⟩

theorem DescribesLookUp.rootNamed {spot : Spot}
    (describes : DescribesLookUp openings workspace spot operation) :
    Option.Rel (RootNamed openings) (some spot) operation.projectionRoot := by
  obtain ⟨root, member, same, named⟩ := describes.root
  rw [named]
  exact .some ⟨root, member, same, rfl⟩

theorem Complete.projection? (complete : Complete traversal openings others workspace)
    {output : Output} (nodes : output.projections = openings.map (traversal.render workspace.linkAt))
    {opening : Opening} (member : opening ∈ openings) :
    output.projection? opening.name = some (traversal.render workspace.linkAt opening) := by
  unfold Output.projection?
  rw [nodes]
  refine find?_eq_some_of_unique (List.mem_map_of_mem member) (beq_self_eq_true _) ?_
  intro node inside named
  obtain ⟨other, member', rfl⟩ := List.mem_map.mp inside
  rw [complete.eq_of_name member' member (eq_of_beq named)]

theorem Describes.offers (describes : Describes traversal openings workspace planned operation)
    (complete : Complete traversal openings others workspace) {output : Output}
    (nodes : output.projections = openings.map (traversal.render workspace.linkAt)) :
    output.Offers traversal.schema (planned.2.kind, planned.2.field) operation := by
  obtain ⟨target, leads⟩ := describes.resolved
  refine ⟨describes.kind, describes.field, describes.arguments, ?_, ?_⟩
  · cases target with
    | leaf => exact iff_of_true (describes.leaf leads) leads
    | composite type =>
      obtain ⟨root, -, -, named⟩ := describes.composite type leads
      exact iff_of_false (by simp [named]) (by simp [leads])
  · intro name named
    cases target with
    | leaf => simp [describes.leaf leads] at named
    | composite type =>
      obtain ⟨root, member, spot, named'⟩ := describes.composite type leads
      obtain rfl := Option.some.inj (named'.symm.trans named)
      refine ⟨_, complete.projection? nodes member, congrArg Spot.kind spot, ?_⟩
      have typed : root.purpose.typeName = type.name := by
        rw [show root.purpose = _ from congrArg Spot.purpose spot]
        rfl
      exact typed.trans (Schema.name_of_type? (Schema.type?_of_target leads))

theorem DescribesLookUp.offersLookUp {path : List String} {entities : List TypeDefinition}
    (describes : DescribesLookUp openings workspace (Traversal.entitiesSpot path entities) operation)
    (complete : Complete traversal openings others workspace) {output : Output}
    (nodes : output.projections = openings.map (traversal.render workspace.linkAt)) :
    output.OffersLookUp operation := by
  obtain ⟨root, member, spot, named⟩ := describes.root
  refine ⟨describes.kind, describes.field, root.name, _, named, complete.projection? nodes member,
    congrArg Spot.kind spot, ?_⟩
  change root.purpose.typeName = _
  rw [show root.purpose = _ from congrArg Spot.purpose spot]
  rfl

end Describes

section Carried

variable {settings : Settings} {schema : Schema} {selected : Option SelectedRoots}
  {openings : List Opening} {operations : List OperationDescriptor}
  {representations : List Representation} {workspace : Workspace}

/-- The root projections of the operations of a run are those of its planned spots, in order. -/
theorem Carried.rootsNamed
    (carried : Carried settings schema selected openings operations representations workspace) :
    List.Forall₂ (RootNamed openings) (plannedSpots settings schema selected)
      (operations.filterMap (·.projectionRoot)) := by
  obtain ⟨firsts, last, rfl, described, lookUp⟩ := carried.described
  rw [List.filterMap_append]
  refine List.rel_append ?_ ?_
  · exact List.rel_filterMap (fun _ _ describes => describes.rootNamed) described
  · rw [← List.filterMap_some (l := (entitiesSpot? settings schema selected).toList)]
    exact List.rel_filterMap (fun _ _ describes => describes.rootNamed) lookUp

theorem Carried.nodup_roots
    (carried : Carried settings schema selected openings operations representations workspace) :
    (operations.filterMap (·.projectionRoot)).Nodup := by
  obtain ⟨others, paths, standing⟩ := carried.standing
  refine nodup_of_named carried.rootsNamed (.of_map _ standing.nodup_paths) ?_
  rintro _ _ _ ⟨root, member, rfl, rfl⟩ ⟨other, member', rfl, same⟩
  rw [standing.complete.eq_of_name member' member same]

theorem Carried.operations_split
    (carried : Carried settings schema selected openings operations representations workspace)
    {output : Output} (same : output.operations = operations) :
    List.Forall₂ (Describes ⟨schema, settings.maxDepth⟩ openings workspace)
        (plan settings schema selected) (output.fieldOperations settings schema) ∧
      Option.Rel (DescribesLookUp openings workspace) (entitiesSpot? settings schema selected)
        (output.lookUpOperation? settings schema) := by
  obtain ⟨firsts, last, rfl, described, lookUp⟩ := carried.described
  unfold Output.fieldOperations Output.lookUpOperation?
  unfold entitiesSpot? at lookUp ⊢
  rw [same]
  cases asked : looksUp settings schema with
  | false =>
    simp only [asked, Bool.false_eq_true, if_false, Option.toList_none] at lookUp ⊢
    cases lookUp
    exact ⟨by rwa [List.append_nil], .none⟩
  | true =>
    simp only [asked, if_true, Option.toList_some] at lookUp ⊢
    cases lookUp with
    | cons describes rest =>
      cases rest
      rw [List.dropLast_concat, List.getLast?_concat]
      exact ⟨described, .some describes⟩

theorem Carried.lookUpOperation?
    (carried : Carried settings schema selected openings operations representations workspace)
    {output : Output} (same : output.operations = operations) {spot : Spot}
    (asked : entitiesSpot? settings schema selected = some spot) :
    ∃ operation, output.lookUpOperation? settings schema = some operation ∧
      DescribesLookUp openings workspace spot operation := by
  have lookUp := (carried.operations_split same).2
  rw [asked] at lookUp
  cases found : output.lookUpOperation? settings schema with
  | none =>
    rw [found] at lookUp
    cases lookUp
  | some operation =>
    rw [found] at lookUp
    cases lookUp with
    | some describes => exact ⟨operation, rfl, describes⟩

end Carried

namespace Generation

variable {settings : Settings} {schema : Schema} {selected : Option SelectedRoots}

/-- Whatever is generated, its operations are those that the settings ask for. -/
theorem offersAll_of_generate {texts : List String} {reading : Settings}
    (read : Schema.ofDocuments texts reading = .ok schema) {output : Output}
    (ok : generate settings schema selected = .ok output) :
    output.OffersAll settings schema selected := by
  have wellFormed := Schema.wellFormed_of_ofDocuments read
  obtain ⟨openings, workspace, carried, nodes⟩ := carried_of_generate wellFormed ok
  obtain ⟨others, paths, standing⟩ := carried.standing
  have complete := standing.complete
  have described := (carried.operations_split rfl).1
  have classes := nodup_classNames wellFormed carried output.constants
  refine ⟨?_, ?_, ?_, carried.nodup_roots⟩
  · rw [operatedFields_eq, ← map_planAfter [] (rootFields settings schema selected), List.map_map,
      List.forall₂_map_left_iff]
    exact described.imp fun _ _ describes => describes.offers complete nodes
  · intro asked
    obtain ⟨operation, found, describes⟩ := carried.lookUpOperation? rfl (if_pos asked)
    exact ⟨operation, found, describes.offersLookUp complete nodes⟩
  · rw [complete.nodes_eq, ← nodes] at classes
    exact (List.nodup_append.mp classes).2.1

def crowdedDocument : String :=
  "type Query \x7b show: Show entities: Show version(of: ID): String \x7d
  type Mutation \x7b show: Show version: Int \x7d
  type Show @key(fields: \"id\") \x7b id: ID next: Show \x7d"

theorem offersAll_crowdedDocument : ∃ schema output,
    Schema.ofDocuments [crowdedDocument] .standard = .ok schema ∧
      generate .standard schema none = .ok output ∧
      (operatedFields .standard schema none).map (fun asked => (asked.1, asked.2.name)) =
        [(.query, "show"), (.query, "entities"), (.query, "version"), (.mutation, "show"),
          (.mutation, "version")] ∧
      output.operations.length = 6 ∧ output.OffersAll .standard schema none := by
  obtain ⟨schema, output, read, ok, listed⟩ := exists_generated crowdedDocument
    (fun schema output => decide
      ((operatedFields .standard schema none).map (fun asked => (asked.1, asked.2.name)) =
        [(.query, "show"), (.query, "entities"), (.query, "version"), (.mutation, "show"),
          (.mutation, "version")] ∧ output.operations.length = 6)) (by decide +kernel)
  obtain ⟨fields, length⟩ := of_decide_eq_true listed
  exact ⟨schema, output, read, ok, fields, length, offersAll_of_generate read ok⟩

end Generation
end GraphQLProjections
