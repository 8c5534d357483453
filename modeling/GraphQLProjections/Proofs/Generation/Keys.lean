import GraphQLProjections.Proofs.Generation.Representations
import GraphQLProjections.Proofs.Projection.Tree

/-! Which key decides a representation. A type is represented once, from the first key that reaches
it, be it a key of its own or one that the key of an earlier type nests. So the schema alone tells
which types are represented, in which order, and from which keys. -/
namespace GraphQLProjections

/-- Types with the keys that they are represented from, in the order in which they are reached. -/
abbrev KeyPlan := List (String × KeyTree)

def TypeDefinition.keyFields (type : TypeDefinition) (names : List String) :
    List (String × TypeRef) :=
  (names.filterMap fun name => type.fields.find? (·.name == name)).map fun field =>
    (field.name, field.type)

namespace TypeDefinition

variable {type : TypeDefinition} {name : String}

theorem keyFields_missing (missing : type.fields.find? (·.name == name) = none)
    (rest : List String) : type.keyFields (name :: rest) = type.keyFields rest := by
  simp [keyFields, missing]

theorem keyFields_found {field : FieldDefinition}
    (found : type.fields.find? (·.name == name) = some field) (rest : List String) :
    type.keyFields (name :: rest) = (field.name, field.type) :: type.keyFields rest := by
  simp [keyFields, found]

end TypeDefinition

namespace Schema

variable (schema : Schema)

def nestedType? (type : TypeDefinition) (name : String) : Option TypeDefinition :=
  ((type.fields.find? (·.name == name)).bind schema.compositeTarget?).filter (·.isObject)

mutual
/-- Plan a type by a key unless it is planned already, then the types that the key nests. -/
def plannedBy (type : TypeDefinition) (plan : KeyPlan) : KeyTree → KeyPlan
  | .mk selected =>
    if type.name ∈ plan.map (·.1) then plan
    else plannedByFields type (plan ++ [(type.name, .mk selected)]) selected

def plannedByFields (type : TypeDefinition) (plan : KeyPlan) :
    List (String × Option KeyTree) → KeyPlan
  | [] => plan
  | (_, none) :: rest => plannedByFields type plan rest
  | (name, some group) :: rest =>
    match schema.nestedType? type name with
    | none => plannedByFields type plan rest
    | some nested => plannedByFields type (plannedBy nested plan group) rest
end

variable {schema} {type : TypeDefinition} {name : String} {rest : List (String × Option KeyTree)}

theorem plannedByFields_missing {group : Option KeyTree}
    (missing : type.fields.find? (·.name == name) = none) :
    (schema.plannedByFields type · ((name, group) :: rest)) =
      (schema.plannedByFields type · rest) := by
  have nowhere : schema.nestedType? type name = none := by
    simp [nestedType?, missing]
  cases group <;> simp [plannedByFields, nowhere]

theorem plannedByFields_scalar {group : Option KeyTree} {field : FieldDefinition}
    {target : FieldTarget} (found : type.fields.find? (·.name == name) = some field)
    (leads : schema.target field = .ok target)
    (flat : ∀ nested, target = .composite nested → group.isSome → nested.isObject = false) :
    (schema.plannedByFields type · ((name, group) :: rest)) =
      (schema.plannedByFields type · rest) := by
  cases group with
  | none => simp [plannedByFields]
  | some group =>
    have nowhere : schema.nestedType? type name = none := by
      cases target with
      | leaf => simp [nestedType?, compositeTarget?, found, leads]
      | composite other =>
        simp [nestedType?, compositeTarget?, found, leads, flat other rfl rfl]
    simp [plannedByFields, nowhere]

theorem plannedByFields_composite {group : KeyTree} {field : FieldDefinition}
    {nested : TypeDefinition} (found : type.fields.find? (·.name == name) = some field)
    (leads : schema.target field = .ok (.composite nested)) (object : nested.isObject = true) :
    (schema.plannedByFields type · ((name, some group) :: rest)) =
      fun plan => schema.plannedByFields type (schema.plannedBy nested plan group) rest := by
  have there : schema.nestedType? type name = some nested := by
    simp [nestedType?, compositeTarget?, found, leads, object]
  simp [plannedByFields, there]

variable (schema)

/-- The key of an entity: all its keys merged, if it has any and all can be read. -/
def ownKey? (entity : TypeDefinition) : Option KeyTree :=
  match (Cataloguing.keyTexts entity).mapM (KeyTree.parse entity.name) with
  | .ok keys => if keys.isEmpty then none else some (KeyTree.merged keys)
  | .error _ => none

def HasReadableKeys (entity : TypeDefinition) : Prop :=
  ∃ keys, (Cataloguing.keyTexts entity).mapM (KeyTree.parse entity.name) = .ok keys

def plannedAfter (plan : KeyPlan) : List TypeDefinition → KeyPlan
  | [] => plan
  | entity :: rest =>
    plannedAfter
      (match ownKey? entity with
      | none => plan
      | some key => schema.plannedBy entity plan key)
      rest

/-- The types that get representations, with the keys that decide them. -/
def keyPlan : KeyPlan := schema.plannedAfter [] schema.entities

end Schema

/-- A representation of a planned type: its type name, then the fields of its key. -/
structure Representation.Follows (schema : Schema) (planned : String × KeyTree)
    (representation : Representation) : Prop where
  type : representation.type = planned.1
  fields : ∃ type values, schema.type? planned.1 = some type ∧
    representation.fields = Representation.typeNameField planned.1 :: values ∧
      values.map (fun value => (value.name, value.type)) = type.keyFields planned.2.fieldNames

theorem Representation.types_of_follows {schema : Schema} {plan : KeyPlan}
    {representations : List Representation}
    (follow : List.Forall₂ (Follows schema) plan representations) :
    representations.map (·.type) = plan.map (·.1) := by
  induction follow with
  | nil => rfl
  | cons follows _ ih => rw [List.map_cons, List.map_cons, follows.type, ih]

/-- A catalogue gets the representations that a plan gets keys for. -/
def Catalogue.Adds (schema : Schema) (plan : KeyPlan) (catalogue : Catalogue) (plan' : KeyPlan)
    (later : Catalogue) : Prop :=
  ∃ planned added, plan' = plan ++ planned ∧
    later.representations.toList = catalogue.representations.toList ++ added ∧
    List.Forall₂ (Representation.Follows schema) planned added

namespace Catalogue.Adds

variable {schema : Schema} {plan plan' plan'' : KeyPlan} {first second third : Catalogue}

theorem refl (plan : KeyPlan) {catalogue later : Catalogue}
    (same : later.representations = catalogue.representations) :
    Adds schema plan catalogue plan later :=
  ⟨[], [], by simp, by simp [same], .nil⟩

theorem trans (before : Adds schema plan first plan' second)
    (after : Adds schema plan' second plan'' third) : Adds schema plan first plan'' third := by
  obtain ⟨planned, added, rfl, grown, follow⟩ := before
  obtain ⟨planned', added', rfl, grown', follow'⟩ := after
  exact ⟨planned ++ planned', added ++ added', List.append_assoc _ _ _,
    by rw [grown', grown, List.append_assoc], List.rel_append follow follow'⟩

theorem types (adds : Adds schema plan first plan' second)
    (same : first.representations.toList.map (·.type) = plan.map (·.1)) :
    second.representations.toList.map (·.type) = plan'.map (·.1) := by
  obtain ⟨planned, added, rfl, grown, follow⟩ := adds
  rw [grown, List.map_append, List.map_append, same, Representation.types_of_follows follow]

end Catalogue.Adds

variable {traversal : Traversal} {openings : List Opening}
  {others : List (List String × String)} {forest : Forest}

namespace Cataloguing

variable {α β : Type}

/-- A step adds representations for what is planned, as long as those before were planned. -/
def Plans (traversal : Traversal) (openings : List Opening) (others : List (List String × String))
    (forest : Forest) (step : Cataloguing α) (after : KeyPlan → KeyPlan) (good : α → Prop) : Prop :=
  ∀ plan catalogue, Catalogued traversal openings others forest catalogue →
    catalogue.representations.toList.map (·.type) = plan.map (·.1) →
    Ensures step catalogue (fun _ _ => True) fun value later =>
      Catalogued traversal openings others forest later ∧
        catalogue.Adds traversal.schema plan (after plan) later ∧ good value

namespace Plans

variable {after after' : KeyPlan → KeyPlan} {good : α → Prop} {good' : β → Prop}

theorem pure {value : α} (holds : good value) :
    Plans traversal openings others forest (pure value : Cataloguing α) id good :=
  fun plan _ held _ => Ensures.pure ⟨held, .refl plan rfl, holds⟩

theorem bind {step : Cataloguing α} {next : α → Cataloguing β}
    (first : Plans traversal openings others forest step after good)
    (second : ∀ value, good value →
      Plans traversal openings others forest (next value) after' good') :
    Plans traversal openings others forest (step >>= next) (fun plan => after' (after plan)) good' := by
  intro plan catalogue held types
  apply (first plan catalogue held types).bind
  rintro value later ⟨held', adds, holds⟩
  apply (second value holds _ later held' (adds.types types)).giving
  rintro result last ⟨held'', adds', holds'⟩
  exact ⟨held'', adds.trans adds', holds'⟩

theorem giving {good' : α → Prop} {step : Cataloguing α}
    (plans : Plans traversal openings others forest step after good)
    (implies : ∀ value, good value → good' value) :
    Plans traversal openings others forest step after good' :=
  fun plan catalogue held types => (plans plan catalogue held types).giving
    fun value _ ⟨held', adds, holds⟩ => ⟨held', adds, implies value holds⟩

theorem discard {told : Prop} {step : Cataloguing α}
    (plans : Plans traversal openings others forest step after fun _ => told) :
    Plans traversal openings others forest (discard step) after fun _ => told := by
  have split : (Functor.discard step : Cataloguing PUnit) = step >>= fun _ => Pure.pure ⟨⟩ := rfl
  rw [split]
  exact plans.bind fun _ holds => pure holds

theorem throw (fault : Error) :
    Plans traversal openings others forest (throw fault : Cataloguing α) after good :=
  fun _ _ _ _ => Ensures.throw trivial

theorem bind_ofExcept {result : Except Error α} {next : α → Cataloguing β}
    (second : ∀ value, result = .ok value →
      Plans traversal openings others forest (next value) after good') :
    Plans traversal openings others forest (Cataloguing.ofExcept result >>= next) after good' := by
  intro plan catalogue held types
  cases result with
  | ok value => exact second value rfl plan catalogue held types
  | error fault => trivial

end Plans

variable (free : ∀ key ∈ others, key.2 ≠ NameSupply.representationSuffix)
  (wellFormed : traversal.schema.WellFormed)
include free wellFormed

theorem represent_plans_of_fields {type : TypeDefinition} (known : type ∈ traversal.schema.types)
    {selected : List (String × Option KeyTree)}
    (fields : Plans traversal openings others forest
      (representFields traversal.schema type selected)
      (traversal.schema.plannedByFields type · selected)
      fun values => values.map (fun value => (value.name, value.type)) =
        type.keyFields (selected.map (·.1))) :
    Plans traversal openings others forest (represent traversal.schema type ⟨selected⟩)
      (traversal.schema.plannedBy type · ⟨selected⟩) fun _ => True := by
  intro plan catalogue held types
  have entered : catalogue.entered.map (·.2) = plan.map (·.1) := by
    rw [← types, Catalogue.entered, List.map_map]
    rfl
  have plain := wellFormed.plain_type known
  refine represent_ensures wellFormed held known ?_ ?_
  · intro name later old named same held' grown
    have planned := (held.reserved_iff free grown.names held'.faithful.consistent plain named).mp old
    rw [entered] at planned
    dsimp only
    rw [Schema.plannedBy, if_pos planned]
    exact ⟨held', .refl plan same, trivial⟩
  · intro name later isNew named pushed held' grown
    have unplanned : type.name ∉ plan.map (·.1) := by
      rw [← entered]
      intro inside
      exact Bool.false_ne_true
        (isNew.symm.trans (held.isReserved_of_entered grown.names named inside))
    dsimp only
    rw [Schema.plannedBy, if_neg unplanned]
    have types' : later.representations.toList.map (·.type) =
        (plan ++ [(type.name, KeyTree.mk selected)]).map (·.1) := by
      simp [pushed, types]
    apply (fields _ later held' types').bind
    rintro values last ⟨held'', ⟨planned, added, planned', grown', follow⟩, keyed⟩
    apply (complete_ensures _ _).bind
    rintro _ _ rfl
    have here : last.entered[catalogue.representations.size]? = some (name, type.name) := by
      simp [Catalogue.entered, grown', pushed]
    have same := entered_complete (Representation.typeNameField type.name :: values) here
    refine .pure ⟨held''.congr rfl same, ⟨(type.name, ⟨selected⟩) :: planned,
      ⟨name, type.name, Representation.typeNameField type.name :: values⟩ :: added, ?_, ?_,
      .cons ⟨rfl, type, values, wellFormed.type?_name known, rfl, keyed⟩ follow⟩, trivial⟩
    · exact planned'.trans (List.append_assoc _ _ _)
    · simp [grown', pushed]

/-- Representing a type carries out the plan for it and for what its key nests. -/
theorem represent_plans (type : TypeDefinition) (tree : KeyTree)
    (known : type ∈ traversal.schema.types) :
    Plans traversal openings others forest (represent traversal.schema type tree)
      (traversal.schema.plannedBy type · tree) fun _ => True := by
  revert known
  refine represent_induction
    (fun type tree step => type ∈ traversal.schema.types →
      Plans traversal openings others forest step (traversal.schema.plannedBy type · tree)
        fun _ => True)
    (fun type fields step => Plans traversal openings others forest step
      (traversal.schema.plannedByFields type · fields)
      fun values => values.map (fun value => (value.name, value.type)) =
        type.keyFields (fields.map (·.1)))
    ?_ ?_ ?_ ?_ ?_ ?_ type tree
  · exact fun fields known => represent_plans_of_fields free wellFormed known fields
  · intro type
    simp only [Schema.plannedByFields]
    exact .pure rfl
  -- Undeclared names are passed over, with the groups under them.
  · intro type name group rest step missing ih
    rw [Schema.plannedByFields_missing missing, List.map_cons,
      TypeDefinition.keyFields_missing missing]
    exact ih
  · exact fun _ _ => .throw _
  · intro type name group rest field target step found leads flat ih
    rw [Schema.plannedByFields_scalar found leads flat, List.map_cons,
      TypeDefinition.keyFields_found found]
    exact ih.bind fun values keyed => .pure (by simp [keyed])
  · intro type name group rest field other first step found leads object nested ih
    rw [Schema.plannedByFields_composite found leads object, List.map_cons,
      TypeDefinition.keyFields_found found]
    exact (nested (Schema.mem_types_of_target leads)).bind fun _ _ =>
      ih.bind fun values keyed => .pure (by simp [keyed])

theorem representEntity_plans {entity : TypeDefinition} (known : entity ∈ traversal.schema.types) :
    Plans traversal openings others forest (representEntity traversal.schema entity)
      (fun plan => match Schema.ownKey? entity with
        | none => plan
        | some key => traversal.schema.plannedBy entity plan key)
      fun _ => Schema.HasReadableKeys entity := by
  apply Plans.bind_ofExcept
  intro keys read
  unfold Schema.ownKey?
  simp only [read]
  cases keys with
  | nil => exact .pure ⟨[], read⟩
  | cons first rest =>
    simp only [List.isEmpty_cons, Bool.false_eq_true, if_false]
    exact (represent_plans free wellFormed entity _ known).bind fun _ _ => .pure ⟨_, read⟩

theorem representAll_plans {entities : List TypeDefinition}
    (known : ∀ entity ∈ entities, entity ∈ traversal.schema.types) :
    Plans traversal openings others forest (representAll traversal.schema entities)
      (traversal.schema.plannedAfter · entities)
      fun _ => ∀ entity ∈ entities, Schema.HasReadableKeys entity := by
  induction entities with
  | nil => exact .pure (List.forall_mem_nil _)
  | cons entity rest ih =>
    have all := ih fun other member => known other (List.mem_cons_of_mem _ member)
    exact (representEntity_plans free wellFormed (known entity List.mem_cons_self)).discard.bind
      fun _ readable => all.giving fun _ rest => List.forall_mem_cons.mpr ⟨readable, rest⟩

end Cataloguing

/-- The representations of entities whose keys can all be read, as their keys plan them. -/
structure RepresentationsFollow (schema : Schema) (entities : List TypeDefinition)
    (representations : List Representation) : Prop where
  readable : ∀ entity ∈ entities, Schema.HasReadableKeys entity
  follow : List.Forall₂ (Representation.Follows schema) (schema.plannedAfter [] entities)
    representations

/-- The representations of a run follow the keys of its entities. -/
theorem entityRepresentations_follow (wellFormed : traversal.schema.WellFormed)
    {workspace : Workspace} (faithful : Faithful traversal openings others workspace)
    (free : ∀ key ∈ others, key.2 ≠ NameSupply.representationSuffix)
    {entities : List TypeDefinition} (known : ∀ entity ∈ entities, entity ∈ traversal.schema.types) :
    Ensures (Generation.entityRepresentations traversal.schema entities) workspace
      (fun _ _ => True) fun representations _ =>
        RepresentationsFollow traversal.schema entities representations := by
  apply entityRepresentations_of_representAll
  apply (Cataloguing.representAll_plans free wellFormed known [] _ (.start faithful) rfl).giving
  rintro _ catalogue ⟨-, ⟨planned, added, same, grown, follow⟩, readable⟩
  obtain rfl : traversal.schema.plannedAfter [] entities = planned := same
  obtain rfl : catalogue.representations.toList = added := grown
  exact ⟨readable, follow⟩

end GraphQLProjections
