import GraphQLProjections.Proofs.Generation.Keys

/-! References between representations. A value of a composite type refers to the representation of
that type by name, which is entered before the value is kept, and a representation is entered only
for an entity or for a value that refers to it. -/
namespace GraphQLProjections

/-- If a value refers to a representation, then to one entered for the object type it is of. -/
def RepresentationField.LeadsInto (schema : Schema) (entered : List (String × String))
    (value : RepresentationField) : Prop :=
  ∀ name, value.kind = .composite name → ∃ type, schema.type? value.type.innermost = some type ∧
    type.isObject = true ∧ (name, type.name) ∈ entered

def Representation.RefersTo (representation : Representation) (name : String) : Prop :=
  ∃ value ∈ representation.fields, value.kind = .composite name

theorem RepresentationField.LeadsInto.mono {schema : Schema} {entered later : List (String × String)}
    {value : RepresentationField} (leads : value.LeadsInto schema entered)
    (grown : entered ⊆ later) : value.LeadsInto schema later := by
  intro name refers
  obtain ⟨type, known, object, member⟩ := leads name refers
  exact ⟨type, known, object, grown member⟩

/-- Representations whose values lead into what is entered, and each of which is wanted or referred
to by one of another type. -/
structure Joined (schema : Schema) (entered : List (String × String))
    (wanted : Representation → Prop) (added : List Representation) : Prop where
  leads : ∀ representation ∈ added, ∀ value ∈ representation.fields, value.LeadsInto schema entered
  needed : ∀ representation ∈ added, wanted representation ∨
    ∃ other ∈ added, other.type ≠ representation.type ∧ other.RefersTo representation.name

namespace Joined

variable {schema : Schema} {entered later : List (String × String)}
  {wanted wanted' : Representation → Prop} {added added' : List Representation}

theorem nil : Joined schema entered wanted [] :=
  ⟨List.forall_mem_nil _, List.forall_mem_nil _⟩

theorem mono (joined : Joined schema entered wanted added)
    (implies : ∀ representation ∈ added, wanted representation → wanted' representation) :
    Joined schema entered wanted' added :=
  ⟨joined.leads, fun representation member =>
    (joined.needed representation member).imp_left (implies representation member)⟩

theorem append (first : Joined schema entered wanted added)
    (second : Joined schema later wanted added') (grown : entered ⊆ later) :
    Joined schema later wanted (added ++ added') := by
  refine ⟨List.forall_mem_append.mpr ⟨fun representation member value inside =>
    (first.leads representation member value inside).mono grown, second.leads⟩,
    List.forall_mem_append.mpr ⟨fun representation member => ?_, fun representation member => ?_⟩⟩
  · refine (first.needed representation member).imp_right fun ⟨other, inside, refers⟩ => ?_
    exact ⟨other, List.mem_append_left _ inside, refers⟩
  · refine (second.needed representation member).imp_right fun ⟨other, inside, refers⟩ => ?_
    exact ⟨other, List.mem_append_right _ inside, refers⟩

theorem cons {representation : Representation}
    (joined : Joined schema entered (fun other => representation.RefersTo other.name) added)
    (apart : ∀ other ∈ added, representation.type ≠ other.type)
    (leads : ∀ value ∈ representation.fields, value.LeadsInto schema entered)
    (holds : wanted representation) : Joined schema entered wanted (representation :: added) := by
  refine ⟨List.forall_mem_cons.mpr ⟨leads, joined.leads⟩,
    List.forall_mem_cons.mpr ⟨.inl holds, fun other member => .inr ?_⟩⟩
  rcases joined.needed other member with refers | ⟨third, inside, differs, refers⟩
  · exact ⟨representation, List.mem_cons_self, apart other member, refers⟩
  · exact ⟨third, List.mem_cons_of_mem _ inside, differs, refers⟩

end Joined

variable {traversal : Traversal} {openings : List Opening}
  {others : List (List String × String)} {forest : Forest} {catalogue : Catalogue}

namespace Cataloguing

variable {α β : Type}

/-- A step adds representations that are joined, and its result is told by what is entered. -/
def Joins (traversal : Traversal) (openings : List Opening) (others : List (List String × String))
    (forest : Forest) (step : Cataloguing α) (wanted : α → Representation → Prop)
    (good : α → List (String × String) → Prop) : Prop :=
  ∀ catalogue, Catalogued traversal openings others forest catalogue →
    Ensures step catalogue (fun _ _ => True) fun value later =>
      Catalogued traversal openings others forest later ∧
        (∃ added, later.representations.toList = catalogue.representations.toList ++ added ∧
          Joined traversal.schema later.entered (wanted value) added) ∧
        good value later.entered

namespace Joins

variable {wanted : α → Representation → Prop} {good : α → List (String × String) → Prop}
  {wanted' : β → Representation → Prop} {good' : β → List (String × String) → Prop}

theorem pure {value : α} (holds : ∀ entered, good value entered) :
    Joins traversal openings others forest (pure value : Cataloguing α) wanted good :=
  fun _ held => Ensures.pure ⟨held, ⟨[], by simp, .nil⟩, holds _⟩

theorem throw (fault : Error) :
    Joins traversal openings others forest (throw fault : Cataloguing α) wanted good :=
  fun _ _ => Ensures.throw trivial

theorem bind_ofExcept {result : Except Error α} {next : α → Cataloguing β}
    (second : ∀ value, result = .ok value →
      Joins traversal openings others forest (next value) wanted' good') :
    Joins traversal openings others forest (Cataloguing.ofExcept result >>= next) wanted' good' := by
  intro catalogue held
  cases result with
  | ok value => exact second value rfl catalogue held
  | error fault => trivial

theorem mono {wanted' : α → Representation → Prop} {good' : α → List (String × String) → Prop}
    {step : Cataloguing α} (joins : Joins traversal openings others forest step wanted good)
    (wants : ∀ value representation, wanted value representation → wanted' value representation)
    (gives : ∀ value entered, good value entered → good' value entered) :
    Joins traversal openings others forest step wanted' good' := by
  intro catalogue held
  refine (joins catalogue held).giving ?_
  rintro value later ⟨held', ⟨added, grown, joined⟩, holds⟩
  exact ⟨held', ⟨added, grown, joined.mono fun _ _ => wants _ _⟩, gives value _ holds⟩

/-- What the first of two steps adds is still wanted, or referred to, after both. -/
theorem bind {step : Cataloguing α} {next : α → Cataloguing β}
    {between : α → β → List (String × String) → Prop}
    (first : Joins traversal openings others forest step wanted good)
    (second : ∀ value, Joins traversal openings others forest (next value) wanted' (between value))
    (both : ∀ value result entered later, entered ⊆ later → good value entered →
      between value result later →
      (∀ representation, wanted value representation → wanted' result representation) ∧
        good' result later) :
    Joins traversal openings others forest (step >>= next) wanted' good' := by
  intro catalogue held
  apply (first catalogue held).bind
  rintro value middle ⟨held', ⟨added, grown, joined⟩, holds⟩
  apply (second value middle held').giving
  rintro result later ⟨held'', ⟨added', grown', joined'⟩, holds'⟩
  have entered : middle.entered ⊆ later.entered := by
    simp [Catalogue.entered, grown']
  obtain ⟨wants, gives⟩ := both value result _ _ entered holds holds'
  refine ⟨held'', ⟨added ++ added', ?_, ?_⟩, gives⟩
  · rw [grown', grown, List.append_assoc]
  · exact (joined.mono fun representation _ => wants representation).append joined' entered

theorem discard {wanted : Representation → Prop} {step : Cataloguing α}
    (joins : Joins traversal openings others forest step (fun _ => wanted) fun _ _ => True) :
    Joins traversal openings others forest (discard step) (fun _ => wanted) fun _ _ => True := by
  have split : (Functor.discard step : Cataloguing PUnit) = step >>= fun _ => Pure.pure ⟨⟩ := rfl
  have ends : Joins traversal openings others forest (Pure.pure ⟨⟩ : Cataloguing PUnit)
      (fun _ => wanted) fun _ _ => True := pure fun _ => trivial
  rw [split]
  exact joins.bind (fun _ => ends) fun _ _ _ _ _ _ _ => ⟨fun _ => id, trivial⟩

end Joins

def JoinsValues (traversal : Traversal) (openings : List Opening)
    (others : List (List String × String)) (forest : Forest)
    (step : Cataloguing (List RepresentationField)) : Prop :=
  Joins traversal openings others forest step
    (fun values representation => ∃ value ∈ values, value.kind = .composite representation.name)
    fun values entered => ∀ value ∈ values, value.LeadsInto traversal.schema entered

def JoinsType (traversal : Traversal) (openings : List Opening)
    (others : List (List String × String)) (forest : Forest) (type : TypeDefinition)
    (step : Cataloguing String) : Prop :=
  Joins traversal openings others forest step
    (fun name representation => representation.name = name ∧ representation.type = type.name)
    fun name entered => (name, type.name) ∈ entered

theorem JoinsValues.cons {step : Cataloguing (List RepresentationField)}
    (joins : JoinsValues traversal openings others forest step) (value : RepresentationField) :
    Joins traversal openings others forest (do
        let fields ← step
        return value :: fields)
      (fun values representation => ∃ value ∈ values, value.kind = .composite representation.name)
      fun values entered => ∃ rest, values = value :: rest ∧
        ∀ value ∈ rest, value.LeadsInto traversal.schema entered := by
  intro catalogue held
  apply (joins catalogue held).bind
  rintro values later ⟨held', ⟨added, grown, joined⟩, leads⟩
  refine .pure ⟨held', ⟨added, grown, joined.mono ?_⟩, values, rfl, leads⟩
  rintro representation - ⟨other, member, refers⟩
  exact ⟨other, List.mem_cons_of_mem _ member, refers⟩

variable (free : ∀ key ∈ others, key.2 ≠ NameSupply.representationSuffix)
  (wellFormed : traversal.schema.WellFormed)
include free wellFormed

theorem joinsType_of_fields {type : TypeDefinition} (known : type ∈ traversal.schema.types)
    {selected : List (String × Option KeyTree)}
    (fields : JoinsValues traversal openings others forest
      (representFields traversal.schema type selected)) :
    JoinsType traversal openings others forest type
      (represent traversal.schema type ⟨selected⟩) := by
  intro catalogue held
  have plain := wellFormed.plain_type known
  refine represent_ensures wellFormed held known ?_ ?_
  · intro name later old named same held' grown
    obtain ⟨entry, member, typed⟩ := List.mem_map.mp
      ((held.reserved_iff free grown.names held'.faithful.consistent plain named).mp old)
    have named' := held'.named entry (grown.entered.subset member)
    rw [typed, named] at named'
    refine ⟨held', ⟨[], by simp [same], .nil⟩, ?_⟩
    rw [Option.some.inj named', ← typed]
    exact grown.entered.subset member
  · intro name later isNew named pushed held' grown
    apply (fields later held').bind
    rintro values last ⟨held'', ⟨added, grown', joined⟩, leads⟩
    apply (complete_ensures _ _).bind
    rintro _ _ rfl
    have entered : last.entered = catalogue.entered ++ (name, type.name) ::
        added.map fun representation => (representation.name, representation.type) := by
      simp [Catalogue.entered, grown', pushed]
    have here : last.entered[catalogue.representations.size]? = some (name, type.name) := by
      rw [entered]
      simp [Catalogue.entered]
    have same := entered_complete (Representation.typeNameField type.name :: values) here
    have apart : ∀ other ∈ added, type.name ≠ other.type := by
      have distinct := held''.distinct
      rw [entered, List.map_append, List.map_cons, List.map_map] at distinct
      have fresh := (List.nodup_cons.mp (List.nodup_append.mp distinct).2.1).1
      exact fun other member same => fresh (List.mem_map.mpr ⟨other, member, same.symm⟩)
    refine .pure ⟨held''.congr rfl same,
      ⟨⟨name, type.name, Representation.typeNameField type.name :: values⟩ :: added, ?_, ?_⟩, ?_⟩
    · simp [grown', pushed]
    · rw [same]
      refine .cons (joined.mono ?_) apart ?_ ⟨rfl, rfl⟩
      · rintro other - ⟨value, member, refers⟩
        exact ⟨value, List.mem_cons_of_mem _ member, refers⟩
      · refine List.forall_mem_cons.mpr ⟨?_, leads⟩
        rintro _ ⟨⟩
    · rw [same, entered]
      exact List.mem_append_right _ List.mem_cons_self

theorem represent_joins (type : TypeDefinition) (tree : KeyTree)
    (known : type ∈ traversal.schema.types) :
    JoinsType traversal openings others forest type (represent traversal.schema type tree) := by
  revert known
  refine represent_induction
    (fun type _ step => type ∈ traversal.schema.types →
      JoinsType traversal openings others forest type step)
    (fun _ _ step => JoinsValues traversal openings others forest step)
    ?_ ?_ ?_ ?_ ?_ ?_ type tree
  · exact fun fields known => joinsType_of_fields free wellFormed known fields
  · exact .pure fun _ => List.forall_mem_nil _
  · exact fun _ ih => ih
  · exact fun _ _ => .throw _
  · intro type name group rest field target step _ _ _ ih
    refine (ih.cons _).mono (fun _ _ => id) ?_
    rintro _ entered ⟨values, rfl, leads⟩
    exact List.forall_mem_cons.mpr ⟨fun _ => nofun, leads⟩
  · intro type name group rest field other first step _ leads object nested ih
    refine (nested (Schema.mem_types_of_target leads)).bind (fun _ => ih.cons _) ?_
    rintro name _ entered later grown member ⟨values, rfl, others⟩
    refine ⟨?_, List.forall_mem_cons.mpr ⟨?_, others⟩⟩
    · rintro representation ⟨rfl, -⟩
      exact ⟨_, List.mem_cons_self, rfl⟩
    · rintro _ ⟨⟩
      exact ⟨other, Schema.type?_of_target leads, object, grown member⟩

theorem representEntity_joins {entity : TypeDefinition} (known : entity ∈ traversal.schema.types) :
    Joins traversal openings others forest (representEntity traversal.schema entity)
      (fun _ representation => representation.type = entity.name) fun _ _ => True := by
  apply Joins.bind_ofExcept
  intro keys _
  split
  · exact .pure fun _ => trivial
  · have ends (name : String) : Joins traversal openings others forest
        (pure (some name) : Cataloguing (Option String))
        (fun _ representation => representation.type = entity.name) fun _ _ => True :=
      .pure fun _ => trivial
    exact (represent_joins free wellFormed entity _ known).bind ends
      fun _ _ _ _ _ _ _ => ⟨fun _ => And.right, trivial⟩

/-- What is represented for some entities is theirs, or referred to. -/
theorem representAll_joins {entities : List TypeDefinition}
    (known : ∀ entity ∈ entities, entity ∈ traversal.schema.types) :
    Joins traversal openings others forest (representAll traversal.schema entities)
      (fun _ representation => ∃ entity ∈ entities, entity.name = representation.type)
      fun _ _ => True := by
  induction entities with
  | nil => exact .pure fun _ => trivial
  | cons entity rest ih =>
    have all := ih fun other member => known other (List.mem_cons_of_mem _ member)
    refine (representEntity_joins free wellFormed (known entity List.mem_cons_self)).discard.bind
      (fun _ => all.mono ?_ fun _ _ => id) ?_
    · rintro _ representation ⟨other, member, typed⟩
      exact ⟨other, List.mem_cons_of_mem _ member, typed⟩
    · exact fun _ _ _ _ _ _ _ =>
        ⟨fun _ typed => ⟨entity, List.mem_cons_self, typed.symm⟩, trivial⟩

end Cataloguing

abbrev RepresentationsJoined (schema : Schema) (entities : List TypeDefinition)
    (representations : List Representation) : Prop :=
  Joined schema (representations.map fun representation =>
      (representation.name, representation.type))
    (fun representation => ∃ entity ∈ entities, entity.name = representation.type) representations

theorem entityRepresentations_join (wellFormed : traversal.schema.WellFormed)
    {workspace : Workspace} (faithful : Faithful traversal openings others workspace)
    (free : ∀ key ∈ others, key.2 ≠ NameSupply.representationSuffix)
    {entities : List TypeDefinition} (known : ∀ entity ∈ entities, entity ∈ traversal.schema.types) :
    Ensures (Generation.entityRepresentations traversal.schema entities) workspace
      (fun _ _ => True) fun representations _ =>
        RepresentationsJoined traversal.schema entities representations := by
  apply entityRepresentations_of_representAll
  apply (Cataloguing.representAll_joins free wellFormed known _ (.start faithful)).giving
  rintro _ catalogue ⟨-, ⟨added, grown, joined⟩, -⟩
  obtain rfl : catalogue.representations.toList = added := grown
  exact joined

end GraphQLProjections
