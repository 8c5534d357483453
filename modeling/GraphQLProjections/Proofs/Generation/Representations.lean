import GraphQLProjections.Generation
import GraphQLProjections.Proofs.Projection.Roots

/-! Representations in a run. They take their names from the supply of the run under paths and a
suffix of their own, so the history of projections stays faithful, and no type gets two. -/
namespace GraphQLProjections

def IsOther (fault : Error) : Prop := ∀ name, fault ≠ .nameCollision name

theorem Schema.target_isOther {schema : Schema} {field : FieldDefinition} {fault : Error}
    (fails : schema.target field = .error fault) : IsOther fault := by
  rw [Schema.target_eq_error fails]
  exact fun name => nofun

theorem TraversalFault.isOther {schema : Schema} {fault : Error}
    (expected : TraversalFault schema fault) : IsOther fault := by
  cases expected with
  | unresolved type field fault known declared unresolved => exact Schema.target_isOther unresolved
  | endlessUnion type => exact fun name same => by cases same

theorem KeyTree.parse_isOther {entity selection : String} {fault : Error}
    (fails : KeyTree.parse entity selection = .error fault) : IsOther fault := by
  intro name same
  unfold KeyTree.parse at fails
  split at fails
  · cases fails
  · rw [same] at fails
    cases fails

theorem Faithful.congr_others {traversal : Traversal} {openings : List Opening}
    {others others' : List (List String × String)} {workspace : Workspace}
    (faithful : Faithful traversal openings others workspace)
    (same : ∀ key, key ∈ others ↔ key ∈ others') :
    Faithful traversal openings others' workspace :=
  { faithful with
    apart := fun key member => faithful.apart key ((same key).mpr member)
    reserved := fun name held => (faithful.reserved name held).imp_right fun ⟨key, member, named⟩ =>
      ⟨key, (same key).mp member, named⟩ }

namespace Representation

def key (type : String) : List String × String := ([type], NameSupply.representationSuffix)

end Representation

namespace Catalogue

def entered (catalogue : Catalogue) : List (String × String) :=
  catalogue.representations.toList.map fun representation =>
    (representation.name, representation.type)

/-- The workspace of a run whose names have gone to the catalogue and come back. -/
def workspace (catalogue : Catalogue) (forest : Forest) : Workspace := ⟨catalogue.names, forest⟩

end Catalogue

variable {traversal : Traversal} {openings : List Opening} {others : List (List String × String)}
  {forest : Forest} {catalogue : Catalogue}

structure Catalogued (traversal : Traversal) (openings : List Opening)
    (others : List (List String × String)) (forest : Forest) (catalogue : Catalogue) : Prop where
  faithful : Faithful traversal openings
    (catalogue.entered.map (fun entry => Representation.key entry.2) ++ others)
    (catalogue.workspace forest)
  named : ∀ entry ∈ catalogue.entered,
    catalogue.names.nameOf? [entry.2] NameSupply.representationSuffix = some entry.1
  distinct : (catalogue.entered.map (·.2)).Nodup

theorem Catalogued.start {workspace : Workspace}
    (faithful : Faithful traversal openings others workspace) :
    Catalogued traversal openings others workspace.forest ⟨workspace.names, #[]⟩ :=
  ⟨faithful, by simp [Catalogue.entered], by simp [Catalogue.entered]⟩

theorem Catalogued.isReserved_of_entered
    (held : Catalogued traversal openings others forest catalogue) {names : NameSupply}
    (keeps : catalogue.names.Keeps names) {type name : String}
    (named : names.nameOf? [type] NameSupply.representationSuffix = some name)
    (member : type ∈ catalogue.entered.map (·.2)) : catalogue.names.isReserved name = true := by
  obtain ⟨entry, inside, rfl⟩ := List.mem_map.mp member
  obtain ⟨-, -, -, other, known, reserved⟩ := held.faithful.apart (Representation.key entry.2)
    (List.mem_append_left _ (List.mem_map.mpr ⟨entry, inside, rfl⟩))
  obtain rfl := Option.some.inj (named.symm.trans (keeps.nameOf? known))
  exact reserved

/-- It is not reserved before, if nothing else has the suffix of representations. -/
theorem Catalogued.reserved_iff (held : Catalogued traversal openings others forest catalogue)
    (free : ∀ key ∈ others, key.2 ≠ NameSupply.representationSuffix) {names : NameSupply}
    (keeps : catalogue.names.Keeps names) (consistent : names.Consistent) {type name : String}
    (plain : IsPlain type)
    (named : names.nameOf? [type] NameSupply.representationSuffix = some name) :
    catalogue.names.isReserved name = true ↔ type ∈ catalogue.entered.map (·.2) := by
  have owner {path : List String} {suffix : String} (plain' : IsPlainPath path)
      (known : catalogue.names.nameOf? path suffix = some name) :
      path = [type] ∧ suffix = NameSupply.representationSuffix :=
    consistent.nameOf?_injective plain' (.singleton plain) (keeps.nameOf? known) named
  constructor
  · intro reserved
    rcases held.faithful.reserved name reserved with ⟨opening, member, rfl⟩ | ⟨key, member, known⟩
    · have plain' := (held.faithful.grounded opening member).path
      obtain ⟨-, suffix⟩ := owner plain' (held.faithful.named opening member)
      exact absurd suffix (opening.suffix_ne (by decide) (by decide))
    · obtain ⟨path, suffix⟩ := owner (held.faithful.apart key member).1 known
      rcases List.mem_append.mp member with member | member
      · obtain ⟨entry, inside, rfl⟩ := List.mem_map.mp member
        obtain rfl := List.singleton_inj.mp path
        exact List.mem_map_of_mem inside
      · exact absurd suffix (free key member)
  · exact held.isReserved_of_entered keeps named

/-- Order in a catalogue depends on names and types only. -/
theorem Catalogued.congr {later : Catalogue}
    (held : Catalogued traversal openings others forest catalogue)
    (names : later.names = catalogue.names) (entered : later.entered = catalogue.entered) :
    Catalogued traversal openings others forest later := by
  refine ⟨?_, ?_, ?_⟩
  · simpa only [Catalogue.workspace, names, entered] using held.faithful
  · simpa only [names, entered] using held.named
  · simpa only [entered] using held.distinct

structure Catalogue.Extends (catalogue later : Catalogue) : Prop where
  names : catalogue.names.Keeps later.names
  entered : catalogue.entered <+: later.entered

theorem Catalogue.Extends.refl (catalogue : Catalogue) : catalogue.Extends catalogue :=
  ⟨.refl _, List.prefix_rfl⟩

theorem Catalogue.Extends.trans {first second third : Catalogue} (before : first.Extends second)
    (after : second.Extends third) : first.Extends third :=
  ⟨before.names.trans after.names, before.entered.trans after.entered⟩

theorem Catalogued.enter {type name : String} {names : NameSupply}
    (held : Catalogued traversal openings others forest catalogue)
    (keeps : catalogue.names.Keeps names) (consistent : names.Consistent) (plain : IsPlain type)
    (named : names.nameOf? [type] NameSupply.representationSuffix = some name)
    (isNew : catalogue.names.isReserved name = false)
    (reserved : ∀ other : String,
      names.isReserved other = (name == other || catalogue.names.isReserved other)) :
    Catalogued traversal openings others forest
      ⟨names, catalogue.representations.push ⟨name, type, []⟩⟩ ∧
    catalogue.Extends ⟨names, catalogue.representations.push ⟨name, type, []⟩⟩ := by
  have entered : Catalogue.entered ⟨names, catalogue.representations.push ⟨name, type, []⟩⟩ =
      catalogue.entered ++ [(name, type)] := by
    simp [Catalogue.entered]
  have faithful := held.faithful.reservedOther keeps consistent (.singleton plain) (by decide)
    (by decide) named reserved
  refine ⟨⟨faithful.congr_others fun key => ?_, ?_, ?_⟩, keeps, ?_⟩
  · rw [entered]
    simp only [List.map_append, List.map_cons, List.map_nil, List.mem_append, List.mem_cons,
      List.not_mem_nil, or_false, Representation.key]
    tauto
  · rw [entered]
    refine List.forall_mem_append.mpr ⟨fun entry member => keeps.nameOf? (held.named entry member),
      List.forall_mem_singleton.mpr named⟩
  · rw [entered, List.map_append, List.nodup_append]
    refine ⟨held.distinct, List.nodup_singleton _, ?_⟩
    rintro _ member _ single rfl
    rw [List.mem_singleton.mp single] at member
    exact Bool.false_ne_true (isNew.symm.trans (held.isReserved_of_entered keeps named member))
  · rw [entered]
    exact List.prefix_append _ _

namespace Cataloguing

variable {α β : Type}

/-- What holds of representing a type and of reading the fields of a key, by what each does first: a
name that the type does not declare is passed over, and a group counts only under a field that leads
to an object type. -/
theorem represent_induction {schema : Schema}
    (ofType : TypeDefinition → KeyTree → Cataloguing String → Prop)
    (ofFields : TypeDefinition → List (String × Option KeyTree) →
      Cataloguing (List RepresentationField) → Prop)
    (type : ∀ {type selected}, ofFields type selected (representFields schema type selected) →
      ofType type ⟨selected⟩ (represent schema type ⟨selected⟩))
    (nil : ∀ {type}, ofFields type [] (pure []))
    (missing : ∀ {type name group rest step}, type.fields.find? (·.name == name) = none →
      ofFields type rest step → ofFields type ((name, group) :: rest) step)
    (unresolved : ∀ {type name group rest field fault},
      type.fields.find? (·.name == name) = some field → schema.target field = .error fault →
      ofFields type ((name, group) :: rest) (throw fault))
    (scalar : ∀ {type name group rest field target step},
      type.fields.find? (·.name == name) = some field → schema.target field = .ok target →
      (∀ nested, target = .composite nested → group.isSome → nested.isObject = false) →
      ofFields type rest step → ofFields type ((name, group) :: rest) (do
        let fields ← step
        return ⟨field.name, field.type, .scalar⟩ :: fields))
    (composite : ∀ {type name group rest field nested first step},
      type.fields.find? (·.name == name) = some field →
      schema.target field = .ok (.composite nested) → nested.isObject = true →
      ofType nested group first → ofFields type rest step →
      ofFields type ((name, some group) :: rest) (do
        let representation ← first
        let fields ← step
        return ⟨field.name, field.type, .composite representation⟩ :: fields))
    (start : TypeDefinition) (tree : KeyTree) : ofType start tree (represent schema start tree) := by
  refine represent.induct
    (fun start tree => ofType start tree (represent schema start tree))
    (fun start fields => ofFields start fields (representFields schema start fields))
    ?_ ?_ ?_ ?_ ?_ ?_ start tree
  · exact fun start selected => type
  · intro start
    unfold representFields
    exact nil
  · intro start name rest absent ih
    unfold representFields
    rw [absent]
    exact missing absent ih
  · intro start name rest field found ih
    unfold representFields
    rw [found]
    dsimp only
    cases leads : schema.target field with
    | error fault => exact unresolved found leads
    | ok target => exact scalar found leads (fun _ _ => nofun) ih
  · intro start name group rest absent ih
    unfold representFields
    rw [absent]
    exact missing absent ih
  · intro start name group rest field found ih nested
    unfold representFields
    rw [found]
    dsimp only
    cases leads : schema.target field with
    | error fault => exact unresolved found leads
    | ok target =>
      rw [show (ofExcept (.ok target) : Cataloguing FieldTarget) = pure target from rfl, pure_bind]
      cases target with
      | leaf => exact scalar found leads nofun ih
      | composite other =>
        dsimp only
        split
        next object => exact composite found leads object (nested other) ih
        next object =>
          refine scalar found leads ?_ ih
          rintro _ ⟨⟩ -
          exact Bool.eq_false_iff.mpr object

/-- A step keeps a catalogue in order, and does not fail by a collision of names. -/
def Catalogues (traversal : Traversal) (openings : List Opening)
    (others : List (List String × String)) (forest : Forest) (step : Cataloguing α) : Prop :=
  ∀ catalogue, Catalogued traversal openings others forest catalogue →
    Ensures step catalogue (fun fault _ => IsOther fault) fun _ later =>
      Catalogued traversal openings others forest later ∧ catalogue.Extends later

namespace Catalogues

theorem pure (value : α) :
    Catalogues traversal openings others forest (pure value : Cataloguing α) :=
  fun _ held => Ensures.pure ⟨held, .refl _⟩

theorem bind {step : Cataloguing α} {next : α → Cataloguing β}
    (first : Catalogues traversal openings others forest step)
    (second : ∀ value, Catalogues traversal openings others forest (next value)) :
    Catalogues traversal openings others forest (step >>= next) := by
  intro catalogue held
  apply (first catalogue held).bind
  rintro value later ⟨held', grown⟩
  apply (second value later held').giving
  rintro result last ⟨held'', grown'⟩
  exact ⟨held'', grown.trans grown'⟩

theorem throw {fault : Error} (isOther : IsOther fault) :
    Catalogues traversal openings others forest (throw fault : Cataloguing α) :=
  fun _ _ => Ensures.throw isOther

theorem bind_ofExcept {result : Except Error α} {next : α → Cataloguing β}
    (isOther : ∀ fault, result = .error fault → IsOther fault)
    (second : ∀ value, result = .ok value →
      Catalogues traversal openings others forest (next value)) :
    Catalogues traversal openings others forest (Cataloguing.ofExcept result >>= next) := by
  intro catalogue held
  cases result with
  | ok value => exact second value rfl catalogue held
  | error fault => exact isOther fault rfl

theorem discard {step : Cataloguing α}
    (catalogues : Catalogues traversal openings others forest step) :
    Catalogues traversal openings others forest (discard step) := by
  have split : (Functor.discard step : Cataloguing PUnit) = step >>= fun _ => Pure.pure ⟨⟩ := rfl
  rw [split]
  exact catalogues.bind fun _ => pure _

end Catalogues

theorem run_claim (type : TypeDefinition) (catalogue : Catalogue) :
    (claim type).run.run catalogue =
      (.ok (catalogue.names.claim [type.name] NameSupply.representationSuffix).1,
        { catalogue with
          names := (catalogue.names.claim [type.name] NameSupply.representationSuffix).2 }) := rfl

theorem claim_ensures {type : TypeDefinition} {claimed : String × Bool} {names : NameSupply}
    {failed : Error → Catalogue → Prop}
    (claims : catalogue.names.claim [type.name] NameSupply.representationSuffix = (claimed, names)) :
    Ensures (claim type) catalogue failed fun value later =>
      value = claimed ∧ later = { catalogue with names } := by
  unfold Ensures
  rw [run_claim, claims]
  exact ⟨rfl, rfl⟩

theorem enter_ensures (name : String) (type : TypeDefinition) {failed : Error → Catalogue → Prop} :
    Ensures (enter name type) catalogue failed fun index later =>
      index = catalogue.representations.size ∧ later = { catalogue with
        representations := catalogue.representations.push ⟨name, type.name, []⟩ } :=
  ⟨rfl, rfl⟩

theorem complete_ensures (index : Nat) (representation : Representation)
    {failed : Error → Catalogue → Prop} :
    Ensures (complete index representation) catalogue failed fun _ later =>
      later = { catalogue with
        representations := catalogue.representations.setIfInBounds index representation } :=
  rfl

theorem entered_complete {index : Nat} {name type : String} (fields : List RepresentationField)
    (here : catalogue.entered[index]? = some (name, type)) :
    Catalogue.entered { catalogue with
      representations := catalogue.representations.setIfInBounds index ⟨name, type, fields⟩ } =
        catalogue.entered := by
  simp only [Catalogue.entered, Array.toList_setIfInBounds, List.map_set]
  obtain ⟨inside, same⟩ := List.getElem?_eq_some_iff.mp here
  apply List.ext_getElem?
  intro other
  rw [List.getElem?_set]
  split
  next at_ =>
    subst at_
    simp only [Catalogue.entered, List.length_map, Array.length_toList] at inside
    simp only [List.length_map, Array.length_toList, inside, if_true]
    exact here.symm
  next => rfl

/-- To represent a type is to turn to the representation that it has, or to enter one and complete it
with the fields of the key. -/
theorem represent_ensures (wellFormed : traversal.schema.WellFormed)
    (held : Catalogued traversal openings others forest catalogue) {type : TypeDefinition}
    (known : type ∈ traversal.schema.types) {selected : List (String × Option KeyTree)}
    {failed : Error → Catalogue → Prop} {good : String → Catalogue → Prop}
    (ifOld : ∀ (name : String) (later : Catalogue), catalogue.names.isReserved name = true →
      later.names.nameOf? [type.name] NameSupply.representationSuffix = some name →
      later.representations = catalogue.representations →
      Catalogued traversal openings others forest later → catalogue.Extends later → good name later)
    (ifNew : ∀ (name : String) (later : Catalogue), catalogue.names.isReserved name = false →
      later.names.nameOf? [type.name] NameSupply.representationSuffix = some name →
      later.representations = catalogue.representations.push ⟨name, type.name, []⟩ →
      Catalogued traversal openings others forest later → catalogue.Extends later →
      Ensures (do
        let fields ← representFields traversal.schema type selected
        complete catalogue.representations.size
          ⟨name, type.name, Representation.typeNameField type.name :: fields⟩
        return name) later failed good) :
    Ensures (represent traversal.schema type ⟨selected⟩) catalogue failed good := by
  obtain ⟨names, name, claimed, keeps, named, reserved, consistent⟩ :=
    catalogue.names.claim_eq [type.name] NameSupply.representationSuffix
  unfold represent
  apply (claim_ensures claimed).bind
  rintro _ _ ⟨rfl, rfl⟩
  cases old : catalogue.names.isReserved name with
  | true =>
    have faithful := held.faithful.renamed keeps (consistent held.faithful.consistent)
      (NameSupply.isReserved_of_old reserved old)
    exact .pure (ifOld name _ old named rfl
      ⟨faithful, fun entry member => keeps.nameOf? (held.named entry member), held.distinct⟩
      ⟨keeps, List.prefix_rfl⟩)
  | false =>
    obtain ⟨held', grown⟩ := held.enter keeps (consistent held.faithful.consistent)
      (wellFormed.plain_type known) named old reserved
    apply (enter_ensures name type).bind
    rintro _ _ ⟨rfl, rfl⟩
    exact ifNew name _ old named rfl held' grown

theorem represent_of_fields (wellFormed : traversal.schema.WellFormed) {type : TypeDefinition}
    (known : type ∈ traversal.schema.types) {selected : List (String × Option KeyTree)}
    (fields : Catalogues traversal openings others forest
      (representFields traversal.schema type selected)) :
    Catalogues traversal openings others forest (represent traversal.schema type ⟨selected⟩) := by
  intro catalogue held
  refine represent_ensures wellFormed held known
    (fun _ _ _ _ _ held' grown => ⟨held', grown⟩) ?_
  intro name entered _ _ pushed held' grown
  apply (fields _ held').bind
  rintro values later ⟨held'', grown'⟩
  apply (complete_ensures _ _).bind
  rintro _ _ rfl
  have here : later.entered[catalogue.representations.size]? = some (name, type.name) := by
    obtain ⟨more, grows⟩ := grown'.entered
    rw [← grows]
    simp [Catalogue.entered, pushed]
  have same := entered_complete (Representation.typeNameField type.name :: values) here
  exact .pure ⟨held''.congr rfl same, (grown.trans grown').trans ⟨.refl _, same ▸ List.prefix_rfl⟩⟩

/-- Representing a type and reading the fields of its key keep the catalogue in order. -/
theorem represent_catalogues (wellFormed : traversal.schema.WellFormed) (type : TypeDefinition)
    (tree : KeyTree) (known : type ∈ traversal.schema.types) :
    Catalogues traversal openings others forest (represent traversal.schema type tree) := by
  revert known
  refine represent_induction
    (fun type _ step => type ∈ traversal.schema.types →
      Catalogues traversal openings others forest step)
    (fun _ _ step => Catalogues traversal openings others forest step)
    ?_ ?_ ?_ ?_ ?_ ?_ type tree
  · exact fun fields known => represent_of_fields wellFormed known fields
  · exact .pure _
  · exact fun _ ih => ih
  · exact fun _ fails => .throw (Schema.target_isOther fails)
  · exact fun _ _ _ ih => ih.bind fun _ => .pure _
  · exact fun _ leads _ nested ih =>
      (nested (Schema.mem_types_of_target leads)).bind fun _ => ih.bind fun _ => .pure _

theorem representEntity_catalogues (wellFormed : traversal.schema.WellFormed)
    {entity : TypeDefinition} (known : entity ∈ traversal.schema.types) :
    Catalogues traversal openings others forest (representEntity traversal.schema entity) := by
  refine .bind_ofExcept ?_ fun keys _ => ?_
  · intro fault fails
    obtain ⟨text, -, malformed⟩ := exists_of_mapM_error fails
    exact KeyTree.parse_isOther malformed
  · split
    · exact .pure _
    · exact (represent_catalogues wellFormed entity _ known).bind fun _ => .pure _

theorem representAll_catalogues (wellFormed : traversal.schema.WellFormed)
    {entities : List TypeDefinition} (known : ∀ entity ∈ entities, entity ∈ traversal.schema.types) :
    Catalogues traversal openings others forest (representAll traversal.schema entities) := by
  induction entities with
  | nil => exact .pure _
  | cons entity rest ih =>
    exact (representEntity_catalogues wellFormed (known entity List.mem_cons_self)).discard.bind
      fun _ => ih fun other member => known other (List.mem_cons_of_mem _ member)

end Cataloguing

/-- The workspace gets the names of the catalogue in which the entities are represented. -/
theorem entityRepresentations_of_representAll {schema : Schema} {entities : List TypeDefinition}
    {workspace : Workspace} {failed : Error → Prop} {good : List Representation → Workspace → Prop}
    (all : Ensures (Cataloguing.representAll schema entities) ⟨workspace.names, #[]⟩
      (fun fault _ => failed fault) fun _ catalogue =>
        good catalogue.representations.toList (catalogue.workspace workspace.forest)) :
    Ensures (Generation.entityRepresentations schema entities) workspace
      (fun fault _ => failed fault) good := by
  unfold Generation.entityRepresentations
  apply get_ensures.bind
  rintro found workspace ⟨rfl, rfl⟩
  rcases ran : (Cataloguing.representAll schema entities).outcome ⟨workspace.names, #[]⟩
    with ⟨result, catalogue⟩
  simp only
  apply (set_ensures _).bind
  rintro _ _ rfl
  cases result with
  | error fault => exact all.of_error ran
  | ok _ => exact .pure (all.of_ok ran)

/-- The representations of a run have names of their own, under keys that no other name has. -/
theorem entityRepresentations_ensures (wellFormed : traversal.schema.WellFormed)
    {workspace : Workspace} (faithful : Faithful traversal openings others workspace)
    {entities : List TypeDefinition} (known : ∀ entity ∈ entities, entity ∈ traversal.schema.types) :
    Ensures (Generation.entityRepresentations traversal.schema entities) workspace
      (fun fault _ => IsOther fault) fun representations later =>
        later.forest = workspace.forest ∧ workspace.names.Keeps later.names ∧
        Faithful traversal openings
          (representations.map (fun representation => Representation.key representation.type) ++
            others) later ∧
        (∀ representation ∈ representations,
          later.names.nameOf? [representation.type] NameSupply.representationSuffix =
            some representation.name) ∧
        (representations.map (·.type)).Nodup := by
  apply entityRepresentations_of_representAll
  apply (Cataloguing.representAll_catalogues wellFormed known _ (.start faithful)).giving
  rintro _ catalogue ⟨held, grown⟩
  have faithful' := held.faithful
  have distinct := held.distinct
  simp only [Catalogue.entered, List.map_map] at faithful' distinct
  refine ⟨rfl, grown.names, faithful', ?_, distinct⟩
  intro representation member
  exact held.named _ (List.mem_map.mpr ⟨representation, member, rfl⟩)

end GraphQLProjections
