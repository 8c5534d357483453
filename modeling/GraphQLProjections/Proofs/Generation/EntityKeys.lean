import GraphQLProjections.Proofs.Generation.Independence

/-! Entities and their keys. A representation takes its fields from the key that reaches its type
first. So an entity whose own key comes too late, after an entity whose key nests it, is represented
by a part of the other key, which need not have the fields that identify the entity. -/
namespace GraphQLProjections

/-- A representation starts with the type name of an entity, and has the fields of a key that the
entity declares. -/
structure Representation.Carries (representation : Representation) (entity : TypeDefinition)
    (key : KeyTree) : Prop where
  typeName : representation.fields.head? = some (Representation.typeNameField entity.name)
  fields : ∀ name ∈ key.fieldNames, ∀ field ∈ entity.fields.find? (·.name == name),
    ∃ held ∈ representation.fields, held.name = name ∧ held.type = field.type

/-- An entity has one representation, which carries all its keys. -/
def Output.CarriesKey (output : Output) (entity : TypeDefinition) : Prop :=
  ∃ keys representation,
    (Cataloguing.keyTexts entity).mapM (KeyTree.parse entity.name) = .ok keys ∧
      output.representations.filter (·.type == entity.name) = [representation] ∧
      representation.Carries entity (KeyTree.merged keys)

def Output.CarriesKeys (output : Output) (schema : Schema) : Prop :=
  ∀ entity ∈ schema.entities, Cataloguing.keyTexts entity ≠ [] → output.CarriesKey entity

namespace TypeDefinition

variable {type : TypeDefinition}

theorem mem_keyFields {names : List String} {pair : String × TypeRef} :
    pair ∈ type.keyFields names ↔ ∃ name ∈ names, ∃ field,
      type.fields.find? (·.name == name) = some field ∧ (field.name, field.type) = pair := by
  simp only [keyFields, List.mem_map, List.mem_filterMap]
  constructor
  · rintro ⟨field, ⟨name, listed, found⟩, same⟩
    exact ⟨name, listed, field, found, same⟩
  · rintro ⟨name, listed, field, found, same⟩
    exact ⟨field, ⟨name, listed, found⟩, same⟩

/-- The representation of a type by one key has the fields of another. -/
def Covers (type : TypeDefinition) (deciding key : KeyTree) : Prop :=
  ∀ pair ∈ type.keyFields key.fieldNames,
    pair ∈ ("__typename", .nonNull (.named "String")) :: type.keyFields deciding.fieldNames

instance (type : TypeDefinition) (deciding key : KeyTree) : Decidable (type.Covers deciding key) :=
  inferInstanceAs (Decidable (∀ _ ∈ _, _))

theorem Covers.refl (key : KeyTree) : type.Covers key key :=
  fun _ => List.mem_cons_of_mem _

end TypeDefinition

namespace Schema

variable {schema : Schema} {type : TypeDefinition} {plan : KeyPlan}

/-! ### What is planned -/

mutual
theorem prefix_plannedBy (type : TypeDefinition) (plan : KeyPlan) (tree : KeyTree) :
    plan <+: schema.plannedBy type plan tree := by
  cases tree with
  | mk selected =>
    rw [plannedBy]
    split
    · exact List.prefix_rfl
    · exact (List.prefix_append _ _).trans (prefix_plannedByFields type _ selected)

theorem prefix_plannedByFields (type : TypeDefinition) (plan : KeyPlan)
    (selected : List (String × Option KeyTree)) :
    plan <+: schema.plannedByFields type plan selected := by
  match selected with
  | [] =>
    unfold plannedByFields
    exact List.prefix_rfl
  | (_, none) :: rest =>
    rw [plannedByFields]
    exact prefix_plannedByFields type plan rest
  | (name, some group) :: rest =>
    rw [plannedByFields]
    split
    · exact prefix_plannedByFields type plan rest
    · exact (prefix_plannedBy _ plan group).trans (prefix_plannedByFields type _ rest)
end

theorem mem_plannedBy (tree : KeyTree) :
    type.name ∈ (schema.plannedBy type plan tree).map (·.1) := by
  cases tree with
  | mk selected =>
    rw [plannedBy]
    split
    next planned => exact planned
    next =>
      apply ((prefix_plannedByFields type _ selected).map _).subset
      simp

theorem plannedAfter_append (plan : KeyPlan) (entities more : List TypeDefinition) :
    schema.plannedAfter plan (entities ++ more) =
      schema.plannedAfter (schema.plannedAfter plan entities) more := by
  induction entities generalizing plan with
  | nil => rfl
  | cons entity rest ih => exact ih _

theorem prefix_plannedAfter (plan : KeyPlan) (entities : List TypeDefinition) :
    plan <+: schema.plannedAfter plan entities := by
  induction entities generalizing plan with
  | nil => exact List.prefix_rfl
  | cons entity rest ih =>
    rw [plannedAfter]
    split
    · exact ih plan
    · exact (prefix_plannedBy entity plan _).trans (ih _)

theorem mem_plannedAfter {entities : List TypeDefinition} {entity : TypeDefinition} {key : KeyTree}
    (member : entity ∈ entities) (owns : ownKey? entity = some key) (plan : KeyPlan) :
    entity.name ∈ (schema.plannedAfter plan entities).map (·.1) := by
  induction entities generalizing plan with
  | nil => exact absurd member List.not_mem_nil
  | cons first rest ih =>
    rcases List.mem_cons.mp member with rfl | member
    · rw [plannedAfter, owns]
      exact ((prefix_plannedAfter _ rest).map _).subset (mem_plannedBy key)
    · exact ih member _

def decidingKey? (schema : Schema) (name : String) : Option KeyTree :=
  (schema.keyPlan.find? (·.1 == name)).map (·.2)

/-- What decides the representation of an entity has the fields of its own key. -/
def KeysPrevail (schema : Schema) : Prop :=
  ∀ entity ∈ schema.entities, ∀ own ∈ ownKey? entity, ∀ deciding ∈ schema.decidingKey? entity.name,
    entity.Covers deciding own

instance (schema : Schema) : Decidable schema.KeysPrevail :=
  inferInstanceAs (Decidable (∀ _ ∈ _, _))

/-- An entity that no key of an earlier entity reaches is represented by its own key. -/
theorem decidingKey?_of_unreached {before after : List TypeDefinition} {entity : TypeDefinition}
    (listed : schema.entities = before ++ entity :: after)
    (unreached : entity.name ∉ (schema.plannedAfter [] before).map (·.1)) {own : KeyTree}
    (owns : ownKey? entity = some own) : schema.decidingKey? entity.name = some own := by
  have reached : schema.plannedAfter [] before ++ [(entity.name, own)] <+: schema.keyPlan := by
    rw [keyPlan, listed, plannedAfter_append, plannedAfter, owns]
    apply List.IsPrefix.trans ?_ (prefix_plannedAfter _ after)
    cases own with
    | mk selected =>
      dsimp only
      rw [plannedBy, if_neg unreached]
      exact prefix_plannedByFields entity _ selected
  obtain ⟨rest, same⟩ := reached
  have none : (schema.plannedAfter [] before).find? (·.1 == entity.name) = none := by
    rw [List.find?_eq_none]
    intro entry planned named
    exact unreached (List.mem_map.mpr ⟨entry, planned, eq_of_beq named⟩)
  rw [decidingKey?, ← same, List.append_assoc, List.find?_append, none]
  simp

/-- The keys prevail if no key of an entity reaches a later one. -/
theorem keysPrevail_of_unreached
    (unreached : ∀ before entity after, schema.entities = before ++ entity :: after →
      entity.name ∉ (schema.plannedAfter [] before).map (·.1)) : schema.KeysPrevail := by
  intro entity member own owns deciding decides
  obtain ⟨before, after, listed⟩ := List.append_of_mem member
  have same := decidingKey?_of_unreached listed (unreached before entity after listed) owns
  obtain rfl := Option.some.inj (same.symm.trans decides)
  exact .refl own

end Schema

/-! ### What is carried -/

open Generation

variable {settings : Settings} {schema : Schema} {selected : Option SelectedRoots}
  {openings : List Opening} {operations : List OperationDescriptor}
  {representations : List Representation} {workspace : Workspace} {entity : TypeDefinition}

/-- A representation that follows a plan carries a key if the deciding key covers it. -/
theorem carries_iff_covers {deciding : KeyTree} {representation : Representation}
    (follows : representation.Follows schema (entity.name, deciding))
    (found : schema.type? entity.name = some entity) (key : KeyTree) :
    representation.Carries entity key ↔ entity.Covers deciding key := by
  obtain ⟨-, type, values, found', fields, keyed⟩ := follows
  obtain rfl : entity = type := Option.some.inj (found.symm.trans found')
  have pairs : representation.fields.map (fun held => (held.name, held.type)) =
      ("__typename", .nonNull (.named "String")) :: entity.keyFields deciding.fieldNames := by
    rw [fields, List.map_cons, keyed]
    rfl
  unfold TypeDefinition.Covers
  rw [← pairs]
  constructor
  · intro carries pair member
    obtain ⟨name, listed, field, first, rfl⟩ := TypeDefinition.mem_keyFields.mp member
    obtain ⟨held, inside, named, typed⟩ := carries.fields name listed field first
    have same : field.name = name := eq_of_beq (List.find?_some first :)
    exact List.mem_map.mpr ⟨held, inside, by rw [named, typed, same]⟩
  · intro covers
    refine ⟨by rw [fields]; rfl, fun name listed field first => ?_⟩
    obtain ⟨held, inside, same⟩ := List.mem_map.mp
      (covers _ (TypeDefinition.mem_keyFields.mpr ⟨name, listed, field, first, rfl⟩))
    obtain ⟨named, typed⟩ := Prod.mk.inj same
    exact ⟨held, inside, named.trans (eq_of_beq (List.find?_some first :)), typed⟩

theorem filter_type_eq {representation : Representation}
    (distinct : (representations.map (·.type)).Nodup) (member : representation ∈ representations) :
    representations.filter (·.type == representation.type) = [representation] := by
  have same : ∀ other ∈ representations,
      (other.type == representation.type) = decide (other = representation) := by
    intro other inside
    rw [Bool.eq_iff_iff, beq_iff_eq, decide_eq_true_iff]
    exact ⟨List.inj_on_of_nodup_map distinct inside member, congrArg _⟩
  rw [List.filter_congr same, List.filter_eq,
    List.count_eq_one_of_mem (List.Nodup.of_map _ distinct) member, List.replicate_one]

/-- The one representation of an entity with a key follows the plan. -/
theorem Carried.representation
    (carried : Carried settings schema selected openings operations representations workspace)
    (asked : looksUp settings schema = true) (member : entity ∈ schema.entities) {own : KeyTree}
    (owns : Schema.ownKey? entity = some own) :
    ∃ deciding representation, schema.decidingKey? entity.name = some deciding ∧
      representations.filter (·.type == entity.name) = [representation] ∧
      representation.Follows schema (entity.name, deciding) := by
  have planned : entity.name ∈ schema.keyPlan.map (·.1) := Schema.mem_plannedAfter member owns []
  obtain ⟨entry, planned, named⟩ := List.mem_map.mp planned
  have reached : (schema.keyPlan.find? (·.1 == entity.name)).isSome :=
    List.find?_isSome.mpr ⟨entry, planned, beq_iff_eq.mpr named⟩
  obtain ⟨⟨name, deciding⟩, first⟩ := Option.isSome_iff_exists.mp reached
  obtain rfl : name = entity.name := eq_of_beq (List.find?_some first :)
  obtain ⟨representation, listed, follows⟩ := exists_left_of_forall₂
    (carried.follow asked).follow.flip (List.mem_of_find?_eq_some first)
  have alone := filter_type_eq carried.representations.distinct listed
  rw [follows.type] at alone
  exact ⟨deciding, representation, Option.map_eq_some_iff.mpr ⟨_, first, rfl⟩, alone, follows⟩

theorem ownKey?_of_readable {keys : List KeyTree}
    (read : (Cataloguing.keyTexts entity).mapM (KeyTree.parse entity.name) = .ok keys) :
    Schema.ownKey? entity =
      if Cataloguing.keyTexts entity = [] then none else some (KeyTree.merged keys) := by
  unfold Schema.ownKey?
  rw [read]
  cases keys with
  | nil => simp [List.forall₂_nil_right_iff.mp (forall₂_of_mapM_ok read)]
  | cons key rest =>
    have keyed : Cataloguing.keyTexts entity ≠ [] := by
      intro none
      rw [none] at read
      cases read
    simp [keyed]

namespace Generation

/-- An entity with a key carries it exactly when the key that decides its representation has the
fields of its own. -/
theorem carriesKey_iff_covers {documents : List String}
    (read : Schema.ofDocuments documents settings = .ok schema)
    (included : settings.skipEntities = false) {output : Output}
    (ok : generate settings schema selected = .ok output) (member : entity ∈ schema.entities)
    (keyed : Cataloguing.keyTexts entity ≠ []) :
    ∃ own deciding, Schema.ownKey? entity = some own ∧
      schema.decidingKey? entity.name = some deciding ∧
      (output.CarriesKey entity ↔ entity.Covers deciding own) := by
  have wellFormed := Schema.wellFormed_of_ofDocuments read
  obtain ⟨openings, workspace, carried, -⟩ := carried_of_generate wellFormed ok
  have asked : looksUp settings schema = true := by
    have present : schema.entities ≠ [] := List.ne_nil_of_mem member
    simp [looksUp, included, present]
  obtain ⟨keys, readable⟩ := (carried.follow asked).readable entity member
  have owned := ownKey?_of_readable readable
  rw [if_neg keyed] at owned
  obtain ⟨deciding, representation, decides, alone, follows⟩ :=
    carried.representation asked member owned
  have found := wellFormed.type?_name (mem_types_of_entities member)
  refine ⟨_, deciding, owned, decides, ?_⟩
  rw [← carries_iff_covers follows found]
  constructor
  · rintro ⟨keys', representation', readable', alone', carries⟩
    obtain rfl := Except.ok.inj (readable.symm.trans readable')
    obtain rfl := List.singleton_inj.mp (alone.symm.trans alone')
    exact carries
  · exact fun carries => ⟨keys, representation, readable, alone, carries⟩

/-- Every entity carries its key exactly when the keys that decide representations have the fields
of the entities' own keys. -/
theorem carriesKeys_iff_keysPrevail {documents : List String}
    (read : Schema.ofDocuments documents settings = .ok schema)
    (included : settings.skipEntities = false) {output : Output}
    (ok : generate settings schema selected = .ok output) :
    output.CarriesKeys schema ↔ schema.KeysPrevail := by
  refine forall₂_congr fun entity member => ?_
  by_cases keyed : Cataloguing.keyTexts entity = []
  · have owned : Schema.ownKey? entity = none := by simp [Schema.ownKey?, keyed, pure, Except.pure]
    simp [owned, keyed]
  · obtain ⟨own, deciding, owned, decides, covers⟩ :=
      carriesKey_iff_covers read included ok member keyed
    simp only [covers, owned, decides, Option.mem_def, Option.some.injEq, forall_eq', ne_eq, keyed,
      not_false_iff, forall_const]

def sharedKeyDocument : String :=
  "type Query \x7b show: Show \x7d
  type Show @key(fields: \"id host \x7b name id \x7d\") \x7b id: ID host: Person \x7d
  type Person @key(fields: \"id\") @key(fields: \"name\") \x7b id: ID name: String age: Int \x7d"

theorem carriesKeys_sharedKeyDocument : ∃ schema output,
    Schema.ofDocuments [sharedKeyDocument] .standard = .ok schema ∧
      Settings.standard.skipEntities = false ∧ generate .standard schema none = .ok output ∧
      output.representations.map (·.fieldNames) =
        [["__typename", "id", "host"], ["__typename", "name", "id"]] ∧
      output.CarriesKeys schema := by
  obtain ⟨schema, output, read, ok, facts⟩ := exists_generated sharedKeyDocument
    (fun schema output => decide (schema.KeysPrevail ∧ output.representations.map (·.fieldNames) =
      [["__typename", "id", "host"], ["__typename", "name", "id"]])) (by decide +kernel)
  obtain ⟨prevail, fields⟩ := of_decide_eq_true facts
  exact ⟨schema, output, read, rfl, ok, fields,
    (carriesKeys_iff_keysPrevail read rfl ok).mpr prevail⟩

def nestedKeyDocument : String :=
  "type Query \x7b a: A \x7d type A @key(fields: \"id b \x7b x \x7d\") \x7b id: ID b: B \x7d
  type B @key(fields: \"id\") \x7b id: ID x: Int \x7d"

/-- The representation of the nested entity lacks the field that its own key names. -/
theorem not_carriesKeys_nestedKeyDocument : ∃ schema output,
    Schema.ofDocuments [nestedKeyDocument] .standard = .ok schema ∧
      Settings.standard.skipEntities = false ∧ generate .standard schema none = .ok output ∧
      ¬output.CarriesKeys schema := by
  obtain ⟨schema, output, read, ok, facts⟩ := exists_generated nestedKeyDocument
    (fun schema output => decide (∃ entity ∈ schema.entities, Cataloguing.keyTexts entity = ["id"] ∧
      (∃ own ∈ Schema.ownKey? entity, "id" ∈ own.fieldNames) ∧
      (entity.fields.find? (·.name == "id")).isSome ∧
      ∀ representation ∈ output.representations, representation.type = entity.name →
        "id" ∉ representation.fieldNames)) (by decide +kernel)
  refine ⟨schema, output, read, rfl, ok, fun carriesKeys => ?_⟩
  obtain ⟨entity, member, texts, ⟨own, owns, named⟩, declared, lacks⟩ := of_decide_eq_true facts
  have keyed : Cataloguing.keyTexts entity ≠ [] := by
    rw [texts]
    exact List.cons_ne_nil _ _
  obtain ⟨keys, representation, readable, alone, carries⟩ := carriesKeys entity member keyed
  obtain rfl : KeyTree.merged keys = own := by
    rw [ownKey?_of_readable readable, if_neg keyed] at owns
    exact Option.some.inj owns
  obtain ⟨field, first⟩ := Option.isSome_iff_exists.mp declared
  obtain ⟨held, inside, same, -⟩ := carries.fields "id" named field first
  have listed : representation ∈ output.representations.filter (·.type == entity.name) := by
    rw [alone]
    exact List.mem_cons_self
  obtain ⟨listed, typed⟩ := List.mem_filter.mp listed
  exact lacks representation listed (eq_of_beq typed) (List.mem_map.mpr ⟨held, inside, same⟩)

end Generation
end GraphQLProjections
