import Mathlib.Data.List.Perm.Subperm
import GraphQLProjections.Proofs.Projection.Likeness
import GraphQLProjections.Proofs.Projection.Walk

/-! Filters that select everything. A filter is finite, so below a type that it saturates no type
comes a second time; a traversal without a filter then links nothing back, and does the same. -/
namespace GraphQLProjections

open Building Relation

/-- The filter selects all fields of a type and all its concrete types, and everything below
them. -/
inductive Filter.Saturates (schema : Schema) : Filter → TypeDefinition → Prop
  | intro {filter : Filter} {type : TypeDefinition}
      (fields : ∀ field ∈ type.fields,
        ((filter.narrowed type.name).field? field.name).isSome)
      (fragments : ∀ concrete ∈ schema.concreteTypes type,
        ((filter.narrowed type.name).fragment? concrete.name).isSome)
      (below : ∀ step next, schema.Leads type step next → ∀ entry,
        (filter.narrowed type.name).step? step = some entry → entry.Saturates schema next) :
      filter.Saturates schema type

/-- A type is projected below another, by one field or as a concrete type. -/
def Schema.Below (schema : Schema) (type next : TypeDefinition) : Prop :=
  ∃ step, schema.Leads type step next

variable {schema : Schema} {type next : TypeDefinition} {filter : Filter}

theorem Schema.Below.known (below : schema.Below type next) : next ∈ schema.types := by
  obtain ⟨step, leads⟩ := below
  cases leads with
  | field _ target => exact Schema.mem_types_of_target target
  | fragment member => exact Schema.mem_types_of_concrete member

namespace Filter

/-- Saturation is told level by level. -/
theorem saturates_iff : filter.Saturates schema type ↔
    (∀ field ∈ type.fields, ∃ entry, (filter.narrowed type.name).field? field.name = some entry ∧
      ∀ target, schema.target field = .ok (.composite target) → entry.Saturates schema target) ∧
    ∀ concrete ∈ schema.concreteTypes type, ∃ entry,
      (filter.narrowed type.name).fragment? concrete.name = some entry ∧
        entry.Saturates schema concrete := by
  constructor
  · rintro ⟨fields, fragments, below⟩
    refine ⟨fun field declared => ?_, fun concrete listed => ?_⟩
    · obtain ⟨entry, found⟩ := Option.isSome_iff_exists.mp (fields field declared)
      exact ⟨entry, found, fun target leads => below _ _ (.field declared leads) entry found⟩
    · obtain ⟨entry, found⟩ := Option.isSome_iff_exists.mp (fragments concrete listed)
      exact ⟨entry, found, below _ _ (.fragment listed) entry found⟩
  · rintro ⟨fields, fragments⟩
    refine .intro (fun field declared => ?_) (fun concrete listed => ?_) ?_
    · obtain ⟨entry, found, -⟩ := fields field declared
      exact Option.isSome_of_mem found
    · obtain ⟨entry, found, -⟩ := fragments concrete listed
      exact Option.isSome_of_mem found
    · intro step next leads entry found
      cases leads with
      | field declared target =>
        obtain ⟨other, found', saturates⟩ := fields _ declared
        obtain rfl := Option.some.inj (found.symm.trans found')
        exact saturates _ target
      | fragment member =>
        obtain ⟨other, found', saturates⟩ := fragments _ member
        obtain rfl := Option.some.inj (found.symm.trans found')
        exact saturates

theorem Saturates.exists_step (saturates : filter.Saturates schema type) {step : SelectionStep}
    (leads : schema.Leads type step next) :
    ∃ entry, (filter.narrowed type.name).step? step = some entry := by
  cases saturates with
  | intro fields fragments below =>
    cases leads with
    | field declared => exact Option.isSome_iff_exists.mp (fields _ declared)
    | fragment member => exact Option.isSome_iff_exists.mp (fragments _ member)

/-- A cycle would need filters without end. -/
theorem Saturates.not_below (saturates : filter.Saturates schema type) :
    ¬TransGen schema.Below type type := by
  induction saturates with
  | intro fields fragments below ih =>
    intro cycle
    obtain ⟨next, ⟨step, leads⟩, back⟩ := TransGen.head'_iff.mp cycle
    obtain ⟨entry, found⟩ := Saturates.exists_step (.intro fields fragments below) leads
    exact ih step next leads entry found (.tail' back ⟨step, leads⟩)

end Filter

/-! ### The way down -/

/-- The types on the way down to a type are different, and the trail has passed these only. -/
structure Schema.DescendsTo (schema : Schema) (above : List TypeDefinition) (type : TypeDefinition)
    (trail : List TrailStep) : Prop where
  distinct : (type :: above).Nodup
  known : ∀ other ∈ type :: above, other ∈ schema.types
  leads : ∀ other ∈ above, TransGen schema.Below other type
  passed : ∀ step ∈ trail, ∃ other ∈ type :: above, other.name = step.type

namespace Schema.DescendsTo

variable {above : List TypeDefinition} {trail : List TrailStep}

theorem start (known : type ∈ schema.types) : schema.DescendsTo [] type [] :=
  ⟨List.nodup_singleton _, List.forall_mem_singleton.mpr known, List.forall_mem_nil _,
    List.forall_mem_nil _⟩

/-- There are no more types on the way down than in the schema. -/
theorem length_lt (descends : schema.DescendsTo above type trail) :
    above.length < schema.types.length :=
  (List.subperm_of_subset descends.distinct descends.known).length_le

theorem reaches (descends : schema.DescendsTo above type trail) (below : schema.Below type next) :
    ∀ other ∈ type :: above, TransGen schema.Below other next :=
  List.forall_mem_cons.mpr
    ⟨.single below, fun other member => (descends.leads other member).tail below⟩

theorem notMem (descends : schema.DescendsTo above type trail) (below : schema.Below type next)
    (acyclic : ¬TransGen schema.Below next next) : next ∉ type :: above :=
  fun member => acyclic (descends.reaches below next member)

theorem fragment (descends : schema.DescendsTo above type trail) (below : schema.Below type next)
    (acyclic : ¬TransGen schema.Below next next) :
    schema.DescendsTo (type :: above) next trail := by
  refine ⟨List.nodup_cons.mpr ⟨descends.notMem below acyclic, descends.distinct⟩,
    List.forall_mem_cons.mpr ⟨below.known, descends.known⟩, descends.reaches below,
    fun step member => ?_⟩
  obtain ⟨other, inside, same⟩ := descends.passed step member
  exact ⟨other, List.mem_cons_of_mem _ inside, same⟩

theorem field (descends : schema.DescendsTo above type trail) (below : schema.Below type next)
    (acyclic : ¬TransGen schema.Below next next) (name : String) (path : List String) :
    schema.DescendsTo (type :: above) next (trail ++ [⟨name, next.name, path⟩]) := by
  have same := descends.fragment below acyclic
  refine ⟨same.distinct, same.known, same.leads, fun step member => ?_⟩
  rcases List.mem_append.mp member with member | member
  · exact same.passed step member
  · obtain rfl := List.mem_singleton.mp member
    exact ⟨next, List.mem_cons_self, rfl⟩

theorem passed?_eq_none (wellFormed : schema.WellFormed)
    (descends : schema.DescendsTo above type trail) (below : schema.Below type next)
    (acyclic : ¬TransGen schema.Below next next) (name : String) :
    Traversal.passed? trail name next.name = none := by
  rw [Traversal.passed?_eq_none]
  intro member
  obtain ⟨step, passed, same⟩ := List.mem_map.mp member
  obtain ⟨other, inside, named⟩ := descends.passed step passed
  obtain rfl := wellFormed.eq_of_name (descends.known other inside) below.known
    (named.trans (congrArg Prod.snd same))
  exact descends.notMem below acyclic inside

end Schema.DescendsTo

/-! ### Deciding saturation -/

namespace Filter

def saturatesWithin (schema : Schema) : Nat → Filter → TypeDefinition → Bool
  | 0, _, _ => false
  | bound + 1, filter, type =>
    (type.fields.all fun field => ((filter.narrowed type.name).field? field.name).any fun entry =>
      (schema.compositeTarget? field).all fun target => saturatesWithin schema bound entry target) &&
    (schema.concreteTypes type).all fun concrete =>
      ((filter.narrowed type.name).fragment? concrete.name).any fun entry =>
        saturatesWithin schema bound entry concrete

theorem saturatesWithin_succ {bound : Nat} : saturatesWithin schema (bound + 1) filter type = true ↔
    (∀ field ∈ type.fields, ∃ entry, (filter.narrowed type.name).field? field.name = some entry ∧
      ∀ target, schema.target field = .ok (.composite target) →
        saturatesWithin schema bound entry target = true) ∧
    ∀ concrete ∈ schema.concreteTypes type, ∃ entry,
      (filter.narrowed type.name).fragment? concrete.name = some entry ∧
        saturatesWithin schema bound entry concrete = true := by
  simp only [saturatesWithin, Bool.and_eq_true, List.all_eq_true, Option.any_eq_true,
    Option.all_eq_true, Schema.compositeTarget?_eq_some]

theorem saturates_of_within {bound : Nat} (within : saturatesWithin schema bound filter type = true) :
    filter.Saturates schema type := by
  induction bound generalizing filter type with
  | zero => cases within
  | succ bound ih =>
    obtain ⟨fields, fragments⟩ := saturatesWithin_succ.mp within
    refine saturates_iff.mpr ⟨fun field declared => ?_, fun concrete listed => ?_⟩
    · obtain ⟨entry, found, below⟩ := fields field declared
      exact ⟨entry, found, fun target leads => ih (below target leads)⟩
    · obtain ⟨entry, found, below⟩ := fragments concrete listed
      exact ⟨entry, found, ih below⟩

/-- There are no more levels than types. -/
theorem Saturates.within (saturates : filter.Saturates schema type) {above : List TypeDefinition}
    (descends : schema.DescendsTo above type []) {bound : Nat}
    (enough : schema.types.length ≤ above.length + bound) :
    saturatesWithin schema bound filter type = true := by
  induction saturates generalizing above bound with
  | @intro filter type fields fragments below ih =>
    have shorter := descends.length_lt
    obtain ⟨bound, rfl⟩ := Nat.exists_eq_add_one.mpr (show 0 < bound by omega)
    have saturates : filter.Saturates schema type := .intro fields fragments below
    have further {step : SelectionStep} {next : TypeDefinition} (leads : schema.Leads type step next)
        {entry : Filter} (found : (filter.narrowed type.name).step? step = some entry) :
        saturatesWithin schema bound entry next = true :=
      ih step next leads entry found
        (descends.fragment ⟨step, leads⟩ (below step next leads entry found).not_below)
        (by simp only [List.length_cons]; omega)
    refine saturatesWithin_succ.mpr ⟨fun field declared => ?_, fun concrete listed => ?_⟩
    · obtain ⟨entry, found⟩ := Option.isSome_iff_exists.mp (fields field declared)
      exact ⟨entry, found, fun target leads => further (.field declared leads) found⟩
    · obtain ⟨entry, found⟩ := Option.isSome_iff_exists.mp (fragments concrete listed)
      exact ⟨entry, found, further (.fragment listed) found⟩

theorem saturates_iff_within : saturatesWithin schema (schema.types.length + 1) filter type = true ↔
    filter.Saturates schema type := by
  refine ⟨saturates_of_within, fun saturates => saturatesWithin_succ.mpr ?_⟩
  obtain ⟨fields, fragments⟩ := saturates_iff.mp saturates
  refine ⟨fun field declared => ?_, fun concrete listed => ?_⟩
  · obtain ⟨entry, found, below⟩ := fields field declared
    exact ⟨entry, found, fun target leads =>
      (below target leads).within (.start (Schema.mem_types_of_target leads)) (by simp)⟩
  · obtain ⟨entry, found, below⟩ := fragments concrete listed
    exact ⟨entry, found, below.within (.start (Schema.mem_types_of_concrete listed)) (by simp)⟩

instance : Decidable (filter.Saturates schema type) := decidable_of_iff _ saturates_iff_within

end Filter

/-! ### The traversal -/

namespace Traversal

section Level

variable {descend descend' : Descent} {above : List TypeDefinition} {trail : List TrailStep}
  {scope : Filter}

/-- Below a type, going down by what a scope selects does the same as going down without a filter. -/
def AgreesBelow (schema : Schema) (descend descend' : Descent) (above : List TypeDefinition)
    (type : TypeDefinition) (scope : Filter) : Prop :=
  ∀ step next, schema.Leads type step next → ∀ entry, scope.step? step = some entry →
    ∀ site trail, schema.DescendsTo (type :: above) next trail →
      descend site next trail (some entry) = descend' site next trail none

variable (maxDepth : Option Nat) (wellFormed : schema.WellFormed)
  (descends : schema.DescendsTo above type trail)
  (acyclic : ∀ next, schema.Below type next → ¬TransGen schema.Below next next)
  (agrees : AgreesBelow schema descend descend' above type scope) (site : Site)

include wellFormed descends acyclic agrees in
/-- A saturated field is projected one segment further, and so it is without a filter. -/
theorem child_agrees {field : FieldDefinition} (declared : field ∈ type.fields)
    (leads : schema.target field = .ok (.composite next)) {entry : Filter}
    (found : scope.field? field.name = some entry) :
    child descend site field next trail (some entry) =
      child descend' site field next trail none := by
  have step : schema.Leads type (.field field.name) next := .field declared leads
  have unpassed := descends.passed?_eq_none wellFormed ⟨_, step⟩ (acyclic next ⟨_, step⟩) field.name
  have path : childPath site field next trail (some entry) = site.path ++ [field.name] := rfl
  have path' : childPath site field next trail none = site.path ++ [field.name] := by
    simp [childPath, unpassed]
  have below := descends.field ⟨_, step⟩ (acyclic next ⟨_, step⟩) field.name
    (site.path ++ [field.name])
  rw [child_eq, child_eq, path, path']
  simp only [agrees _ next step entry found _ _ below]

include descends acyclic agrees in
theorem fragment_agrees {concrete : TypeDefinition}
    (listed : concrete ∈ schema.concreteTypes type) {entry : Filter}
    (found : scope.fragment? concrete.name = some entry) :
    fragment descend site concrete trail (some entry) =
      fragment descend' site concrete trail none := by
  have step : schema.Leads type (.fragment concrete.name) concrete := .fragment listed
  have below := descends.fragment ⟨_, step⟩ (acyclic concrete ⟨_, step⟩)
  rw [fragment_eq, fragment_eq]
  simp only [agrees _ concrete step entry found _ _ below]

include wellFormed descends acyclic agrees in
theorem method?_agrees {field : FieldDefinition} (declared : field ∈ type.fields)
    (selected : (scope.field? field.name).isSome) :
    method? ⟨schema, maxDepth⟩ descend site trail (some scope) field =
      method? ⟨schema, maxDepth⟩ descend' site trail none field := by
  obtain ⟨entry, found⟩ := Option.isSome_iff_exists.mp selected
  unfold method?
  simp only [partScope, found, Option.map_some]
  cases leads : schema.target field with
  | error fault => simp only [ofExcept_error_bind]
  | ok target =>
    cases target with
    | leaf => simp only [ofExcept_ok, pure_bind]
    | composite next =>
      have same := child_agrees wellFormed descends acyclic agrees site declared leads found
      simp only [ofExcept_ok, pure_bind, same]

include descends acyclic agrees in
theorem accessor?_agrees {concrete : TypeDefinition}
    (listed : concrete ∈ schema.concreteTypes type)
    (selected : (scope.fragment? concrete.name).isSome) :
    accessor? descend site trail (some scope) concrete =
      accessor? descend' site trail none concrete := by
  obtain ⟨entry, found⟩ := Option.isSome_iff_exists.mp selected
  have same := fragment_agrees descends acyclic agrees site listed found
  unfold accessor?
  simp only [partScope, found, Option.map_some, same]

end Level

theorem cuts_saturated {maxDepth : Option Nat} {scope : Filter}
    (selected : ∀ field ∈ type.fields, (scope.field? field.name).isSome) (site : Site) :
    cuts ⟨schema, maxDepth⟩ site (some scope) type = cuts ⟨schema, maxDepth⟩ site none type := by
  unfold cuts
  rw [Bool.eq_iff_iff, Bool.and_eq_true, Bool.and_eq_true, List.any_eq_true, List.any_eq_true]
  refine and_congr_right fun _ => exists_congr fun field => and_congr_right fun declared => ?_
  simp [partScope, selected field declared]

/-- By a filter that saturates a type a site is populated as without a filter, within any bounds that
are more than the types yet to come. -/
theorem populate_saturated (wellFormed : schema.WellFormed) (maxDepth : Option Nat)
    (saturates : filter.Saturates schema type) {above : List TypeDefinition}
    {trail : List TrailStep} (descends : schema.DescendsTo above type trail) {bound bound' : Nat}
    (enough : schema.types.length ≤ above.length + bound)
    (enough' : schema.types.length ≤ above.length + bound') (site : Site) :
    populate ⟨schema, maxDepth⟩ bound site type trail (some filter) =
      populate ⟨schema, maxDepth⟩ bound' site type trail none := by
  induction saturates generalizing above trail bound bound' site with
  | @intro filter type fields fragments below ih =>
    have shorter := descends.length_lt
    obtain ⟨bound, rfl⟩ := Nat.exists_eq_add_one.mpr (show 0 < bound by omega)
    obtain ⟨bound', rfl⟩ := Nat.exists_eq_add_one.mpr (show 0 < bound' by omega)
    have acyclic : ∀ next, schema.Below type next → ¬TransGen schema.Below next next := by
      rintro next ⟨step, leads⟩
      obtain ⟨entry, found⟩ := Filter.Saturates.exists_step (.intro fields fragments below) leads
      exact (below step next leads entry found).not_below
    have agrees : AgreesBelow schema (populate ⟨schema, maxDepth⟩ bound)
        (populate ⟨schema, maxDepth⟩ bound') above type (filter.narrowed type.name) := by
      intro step next leads entry found site trail descends'
      exact ih step next leads entry found descends' (by simp only [List.length_cons]; omega)
        (by simp only [List.length_cons]; omega) site
    have methods := gather_congr fun field declared =>
      method?_agrees maxDepth wellFormed descends acyclic agrees site declared (fields field declared)
    have accessors := gather_congr fun concrete listed =>
      accessor?_agrees descends acyclic agrees site listed (fragments concrete listed)
    simp only [populate, populateBy, Option.map_some, Option.map_none, methods, accessors,
      cuts_saturated fields]

theorem length_le_levels (traversal : Traversal) (filter : Option Filter) :
    traversal.schema.types.length ≤ traversal.levels filter := by
  unfold levels
  rw [Nat.succ_mul]
  omega

/-- A filter that saturates the type of a root field does the same as no filter, whatever has been
named and projected before, and whatever the depth bound. -/
theorem rootAt_of_saturates {texts : List String} {reading : Settings}
    (read : Schema.ofDocuments texts reading = .ok schema) {field : FieldDefinition}
    (leads : schema.target field = .ok (.composite type)) (saturates : filter.Saturates schema type)
    (maxDepth : Option Nat) (path : List String) (workspace : Workspace) :
    (rootAt ⟨schema, maxDepth⟩ path field (some filter)).outcome workspace =
      (rootAt ⟨schema, maxDepth⟩ path field none).outcome workspace := by
  have enough (filter : Option Filter) : schema.types.length ≤
      ([] : List TypeDefinition).length + levels ⟨schema, maxDepth⟩ filter := by
    simpa using length_le_levels ⟨schema, maxDepth⟩ filter
  have same := populate_saturated (Schema.wellFormed_of_ofDocuments read) maxDepth saturates
    (.start (Schema.mem_types_of_target leads)) (enough (some filter)) (enough none)
  simp only [rootAt, leads, ofExcept_ok, pure_bind, same]

def programmeDocument : String :=
  "type Query \x7b show: Show \x7d
  interface Show \x7b title: String by: Maker \x7d
  type Movie implements Show \x7b title: String by: Maker length(unit: Int): Int \x7d
  union Maker = Person
  type Person \x7b name: String \x7d"

def makerFilter : Filter :=
  .mk [] [("Person", .mk [("name", .empty)] [])]

def programmeFilter : Filter :=
  .mk [("by", makerFilter)]
    [("Show", .mk [("title", .empty)] []),
      ("Movie", .mk [("title", .empty), ("by", makerFilter), ("length", .empty)] [])]

theorem rootAt_of_saturates_programmeDocument : ∃ schema field start id later,
    Schema.ofDocuments [programmeDocument] .standard = .ok schema ∧
      schema.target field = .ok (.composite start) ∧ start.isInterface = true ∧
      programmeFilter.Saturates schema start ∧
      (rootAt ⟨schema, none⟩ [field.name] field none).outcome (.empty false) =
        (.ok (some id), later) ∧ later.forest.size = 7 ∧
      ∀ maxDepth path workspace,
        (rootAt ⟨schema, maxDepth⟩ path field (some programmeFilter)).outcome workspace =
          (rootAt ⟨schema, maxDepth⟩ path field none).outcome workspace := by
  obtain ⟨schema, owner, field, start, id, later, read, -, -, leads, ran, facts⟩ :=
    exists_first_root programmeDocument (fun schema start forest _ =>
      decide (start.isInterface = true ∧ programmeFilter.Saturates schema start ∧ forest.size = 7))
      (by decide +kernel)
  obtain ⟨isInterface, saturates, size⟩ := of_decide_eq_true facts
  exact ⟨schema, field, start, id, later, read, leads, isInterface, saturates, ran, size,
    rootAt_of_saturates read leads saturates⟩

end Traversal
end GraphQLProjections
