import GraphQLProjections.Generation
import GraphQLProjections.Proofs.Projection.Roots

/-! What a run will do, told from its input alone: the root fields that get an operation, in order,
the paths of their operations, and the spots of the root projections. -/
namespace GraphQLProjections

/-- A root field that gets an operation. -/
structure RootField where
  kind : OperationKind
  field : FieldDefinition
  filter : Option Filter

namespace Generation

/-- The selected roots that a run keeps to. -/
def keptRoots (settings : Settings) (selected : Option SelectedRoots) : Option SelectedRoots :=
  if settings.definedOnly then selected else none

/-- The filter under which a root field gets an operation, if it gets one. -/
def rootFieldOf (selected : Option SelectedRoots) (kind : OperationKind) (field : FieldDefinition) :
    Option RootField :=
  match selected with
  | none => some ⟨kind, field, none⟩
  | some selected => (selected.filter? kind field.name).map fun filter => ⟨kind, field, some filter⟩

def rootFieldsOf (settings : Settings) (selected : Option SelectedRoots) :
    List (OperationKind × TypeDefinition) → List RootField
  | [] => []
  | (kind, type) :: rest =>
    (if includes settings kind then type.fields.filterMap (rootFieldOf selected kind) else []) ++
      rootFieldsOf settings selected rest

def rootFields (settings : Settings) (schema : Schema) (selected : Option SelectedRoots) :
    List RootField :=
  rootFieldsOf settings (keptRoots settings selected) schema.rootTypes

/-- The path of a root field: the kind of operation comes first if another kind has the name. -/
def pathAfter (taken : List (List String)) (root : RootField) : List String :=
  if root.kind = .query then [root.field.name]
  else if [root.field.name] ∈ taken then [root.kind.text, root.field.name]
  else [root.field.name]

def planAfter (taken : List (List String)) : List RootField → List (List String × RootField)
  | [] => []
  | root :: rest => (pathAfter taken root, root) :: planAfter (pathAfter taken root :: taken) rest

def takenAfter (taken : List (List String)) : List RootField → List (List String)
  | [] => taken
  | root :: rest => takenAfter (pathAfter taken root :: taken) rest

def Fresh (taken : List (List String)) : List RootField → Prop
  | [] => True
  | root :: rest => pathAfter taken root ∉ taken ∧ Fresh (pathAfter taken root :: taken) rest

theorem planAfter_append (taken : List (List String)) (roots more : List RootField) :
    planAfter taken (roots ++ more) =
      planAfter taken roots ++ planAfter (takenAfter taken roots) more := by
  induction roots generalizing taken with
  | nil => rfl
  | cons root rest ih => simp only [List.cons_append, planAfter, takenAfter, ih]

theorem takenAfter_append (taken : List (List String)) (roots more : List RootField) :
    takenAfter taken (roots ++ more) = takenAfter (takenAfter taken roots) more := by
  induction roots generalizing taken with
  | nil => rfl
  | cons root rest ih => simp only [List.cons_append, takenAfter, ih]

theorem fresh_append (taken : List (List String)) (roots more : List RootField) :
    Fresh taken (roots ++ more) ↔ Fresh taken roots ∧ Fresh (takenAfter taken roots) more := by
  induction roots generalizing taken with
  | nil => simp [Fresh, takenAfter]
  | cons root rest ih => simp only [List.cons_append, Fresh, takenAfter, ih, and_assoc]

theorem mem_takenAfter {taken : List (List String)} {roots : List RootField} {path : List String} :
    path ∈ takenAfter taken roots ↔
      path ∈ taken ∨ ∃ root, (path, root) ∈ planAfter taken roots := by
  induction roots generalizing taken with
  | nil => simp [takenAfter, planAfter]
  | cons root rest ih =>
    simp only [takenAfter, planAfter, ih, List.mem_cons, Prod.mk.injEq]
    constructor
    · rintro ((rfl | old) | ⟨other, planned⟩)
      · exact .inr ⟨root, .inl ⟨rfl, rfl⟩⟩
      · exact .inl old
      · exact .inr ⟨other, .inr planned⟩
    · rintro (old | ⟨other, ⟨rfl, rfl⟩ | planned⟩)
      · exact .inl (.inr old)
      · exact .inl (.inl rfl)
      · exact .inr ⟨other, planned⟩

/-- A path is the name of the field, or that after the kind of operation. -/
theorem pathAfter_cases (taken : List (List String)) (root : RootField) :
    pathAfter taken root = [root.field.name] ∨
      root.kind ≠ .query ∧ pathAfter taken root = [root.kind.text, root.field.name] := by
  unfold pathAfter
  split
  · exact .inl rfl
  next other =>
    split
    · exact .inr ⟨other, rfl⟩
    · exact .inl rfl

theorem path_of_mem_plan {taken : List (List String)} {roots : List RootField} {path : List String}
    {root : RootField} (planned : (path, root) ∈ planAfter taken roots) :
    root ∈ roots ∧ (path = [root.field.name] ∨
      root.kind ≠ .query ∧ path = [root.kind.text, root.field.name]) := by
  induction roots generalizing taken with
  | nil => simp [planAfter] at planned
  | cons first rest ih =>
    rcases List.mem_cons.mp planned with here | later
    · obtain ⟨rfl, rfl⟩ := Prod.mk.inj here
      exact ⟨List.mem_cons_self, pathAfter_cases taken root⟩
    · obtain ⟨member, path⟩ := ih later
      exact ⟨List.mem_cons_of_mem _ member, path⟩

theorem mem_planAfter {taken : List (List String)} {roots : List RootField} {root : RootField}
    (member : root ∈ roots) : ∃ path, (path, root) ∈ planAfter taken roots := by
  induction roots generalizing taken with
  | nil => exact absurd member List.not_mem_nil
  | cons first rest ih =>
    rcases List.mem_cons.mp member with rfl | member
    · exact ⟨_, List.mem_cons_self⟩
    · obtain ⟨path, planned⟩ := ih member
      exact ⟨path, List.mem_cons_of_mem _ planned⟩

theorem Fresh.nodup {taken : List (List String)} {roots : List RootField} (fresh : Fresh taken roots) :
    ((planAfter taken roots).map (·.1)).Nodup ∧
      ∀ path ∈ (planAfter taken roots).map (·.1), path ∉ taken := by
  induction roots generalizing taken with
  | nil => simp [planAfter]
  | cons root rest ih =>
    obtain ⟨free, fresh⟩ := fresh
    obtain ⟨distinct, apart⟩ := ih fresh
    simp only [planAfter, List.map_cons, List.nodup_cons]
    refine ⟨⟨fun member => apart _ member List.mem_cons_self, distinct⟩, ?_⟩
    refine List.forall_mem_cons.mpr ⟨free, fun path member old => ?_⟩
    exact apart path member (List.mem_cons_of_mem _ old)

theorem text_injective : Function.Injective OperationKind.text := by
  intro kind other same
  cases kind <;> cases other <;> first | rfl | exact absurd same (by decide)

/-- If the fields of each kind have distinct names and those of queries come first, no path comes
twice. -/
theorem fresh_of_distinct {taken : List (List String)} {roots : List RootField}
    (distinct : (roots.map fun root => (root.kind, root.field.name)).Nodup)
    (queriesFirst : roots.Pairwise fun root other => other.kind = .query → root.kind = .query)
    (plainFree : ∀ root ∈ roots, root.kind = .query → [root.field.name] ∉ taken)
    (longFree : ∀ root ∈ roots, root.kind ≠ .query → [root.kind.text, root.field.name] ∉ taken) :
    Fresh taken roots := by
  induction roots generalizing taken with
  | nil => trivial
  | cons root rest ih =>
    rw [List.map_cons, List.nodup_cons] at distinct
    obtain ⟨apart, distinct⟩ := distinct
    obtain ⟨before, queriesFirst⟩ := List.pairwise_cons.mp queriesFirst
    have other (later : RootField) (member : later ∈ rest) (kind : root.kind = later.kind) :
        later.field.name ≠ root.field.name := by
      intro same
      exact apart (List.mem_map.mpr ⟨later, member, by rw [kind, same]⟩)
    refine ⟨?_, ih distinct queriesFirst ?_ ?_⟩
    · unfold pathAfter
      split
      next query => exact plainFree root List.mem_cons_self query
      next query =>
        split
        · exact longFree root List.mem_cons_self query
        next free => exact free
    · intro later member query
      have kind := before later member query
      rw [List.mem_cons, not_or]
      refine ⟨?_, plainFree later (List.mem_cons_of_mem _ member) query⟩
      simpa [pathAfter, kind] using other later member (kind.trans query.symm)
    · intro later member query
      rw [List.mem_cons, not_or]
      refine ⟨fun same => ?_, longFree later (List.mem_cons_of_mem _ member) query⟩
      rcases pathAfter_cases taken root with path | ⟨-, path⟩
      · rw [path] at same
        simp at same
      · rw [path, List.cons.injEq, List.cons.injEq] at same
        exact other later member (text_injective same.1).symm same.2.1

theorem rootFieldOf_eq_some {selected : Option SelectedRoots} {kind : OperationKind}
    {field : FieldDefinition} {root : RootField}
    (gets : rootFieldOf selected kind field = some root) : root.kind = kind ∧ root.field = field := by
  unfold rootFieldOf at gets
  split at gets
  · obtain rfl := Option.some.inj gets
    exact ⟨rfl, rfl⟩
  · obtain ⟨filter, -, rfl⟩ := Option.map_eq_some_iff.mp gets
    exact ⟨rfl, rfl⟩

theorem mem_rootFieldsOf {settings : Settings} {selected : Option SelectedRoots}
    {types : List (OperationKind × TypeDefinition)} {root : RootField} :
    root ∈ rootFieldsOf settings selected types ↔ ∃ type, (root.kind, type) ∈ types ∧
      includes settings root.kind = true ∧ root.field ∈ type.fields ∧
      rootFieldOf selected root.kind root.field = some root := by
  induction types with
  | nil => simp [rootFieldsOf]
  | cons first rest ih =>
    obtain ⟨kind, type⟩ := first
    have here : root ∈ (if includes settings kind then
          type.fields.filterMap (rootFieldOf selected kind) else []) ↔
        root.kind = kind ∧ includes settings root.kind = true ∧ root.field ∈ type.fields ∧
          rootFieldOf selected root.kind root.field = some root := by
      constructor
      · intro member
        split at member
        next included =>
          obtain ⟨field, declared, gets⟩ := List.mem_filterMap.mp member
          obtain ⟨rfl, rfl⟩ := rootFieldOf_eq_some gets
          exact ⟨rfl, included, declared, gets⟩
        next => exact absurd member List.not_mem_nil
      · rintro ⟨rfl, included, declared, gets⟩
        rw [if_pos included]
        exact List.mem_filterMap.mpr ⟨root.field, declared, gets⟩
    rw [rootFieldsOf, List.mem_append, here, ih]
    constructor
    · rintro (⟨rfl, included, declared, gets⟩ | ⟨other, listed, found⟩)
      · exact ⟨type, List.mem_cons_self, included, declared, gets⟩
      · exact ⟨other, List.mem_cons_of_mem _ listed, found⟩
    · rintro ⟨other, listed, found⟩
      rcases List.mem_cons.mp listed with same | listed
      · obtain ⟨rfl, rfl⟩ := Prod.mk.inj same
        exact .inl ⟨rfl, found⟩
      · exact .inr ⟨other, listed, found⟩

theorem rootTypes_kinds (schema : Schema) :
    (schema.rootTypes.map (·.1)).Sublist [.query, .mutation, .subscription] := by
  have kinds : schema.rootTypes.map (·.1) =
      [OperationKind.query, .mutation, .subscription].filter fun kind =>
        (schema.rootType? kind).isSome := by
    simp only [Schema.rootTypes, List.map_filterMap, ← List.filterMap_eq_filter]
    apply List.filterMap_congr
    intro kind _
    cases found : schema.rootType? kind <;> simp [Option.guard, found]
  rw [kinds]
  exact List.filter_sublist

theorem mem_rootTypes {schema : Schema} {kind : OperationKind} {type : TypeDefinition} :
    (kind, type) ∈ schema.rootTypes ↔ schema.rootType? kind = some type := by
  have listed : kind ∈ [OperationKind.query, .mutation, .subscription] := by cases kind <;> simp
  simp only [Schema.rootTypes, List.mem_filterMap, Option.map_eq_some_iff, Prod.mk.injEq]
  constructor
  · rintro ⟨kind, -, type, found, rfl, rfl⟩
    exact found
  · exact fun found => ⟨kind, listed, type, found, rfl, rfl⟩

theorem mem_types_of_rootTypes {schema : Schema} {kind : OperationKind} {type : TypeDefinition}
    (listed : (kind, type) ∈ schema.rootTypes) : type ∈ schema.types :=
  Schema.mem_types_of_type? (Option.filter_eq_some_iff.mp (mem_rootTypes.mp listed)).1

/-- If no root type declares a field twice, no path of the plan comes twice. -/
theorem fresh_rootFields (settings : Settings) {schema : Schema} (selected : Option SelectedRoots)
    (distinct : ∀ kind type, (kind, type) ∈ schema.rootTypes → (type.fields.map (·.name)).Nodup) :
    Fresh [] (rootFields settings schema selected) := by
  have ordered (types : List (OperationKind × TypeDefinition))
      (kinds : (types.map (·.1)).Sublist [.query, .mutation, .subscription])
      (distinct : ∀ kind type, (kind, type) ∈ types → (type.fields.map (·.name)).Nodup) :
      (rootFieldsOf settings (keptRoots settings selected) types).Pairwise fun root other =>
        (root.kind, root.field.name) ≠ (other.kind, other.field.name) ∧
          (other.kind = .query → root.kind = .query) := by
    have sorted : (types.map (·.1)).Pairwise fun kind other =>
        kind ≠ other ∧ (other = .query → kind = .query) := by
      apply List.Pairwise.sublist kinds
      decide
    clear kinds
    induction types with
    | nil => exact .nil
    | cons first rest ih =>
      obtain ⟨kind, type⟩ := first
      obtain ⟨before, sorted⟩ := List.pairwise_cons.mp sorted
      refine List.pairwise_append.mpr ⟨?_, ih (fun kind type listed =>
        distinct kind type (List.mem_cons_of_mem _ listed)) sorted, ?_⟩
      · split
        · refine List.pairwise_filterMap.mpr ((List.pairwise_map.mp
            (distinct kind type List.mem_cons_self)).imp fun {field next} apart => ?_)
          intro root gets other gets'
          obtain ⟨rfl, rfl⟩ := rootFieldOf_eq_some gets
          obtain ⟨kind, rfl⟩ := rootFieldOf_eq_some gets'
          exact ⟨by simp [apart], by simp [kind]⟩
        · exact .nil
      · intro root member other member'
        obtain ⟨type', listed, -⟩ := mem_rootFieldsOf.mp member'
        have kind' : root.kind = kind := by
          split at member
          · obtain ⟨field, -, gets⟩ := List.mem_filterMap.mp member
            exact (rootFieldOf_eq_some gets).1
          · exact absurd member List.not_mem_nil
        have apart := before other.kind (List.mem_map.mpr ⟨_, listed, rfl⟩)
        exact ⟨by simp [kind', apart.1], fun query => kind'.trans (apart.2 query)⟩
  have all := ordered schema.rootTypes (rootTypes_kinds schema) distinct
  refine fresh_of_distinct ?_ (all.imp fun apart => apart.2) (by simp) (by simp)
  exact List.pairwise_map.mpr (all.imp fun apart => apart.1)

/-! ### Planned spots -/

/-- The spot of a planned root field that leads to a composite type. -/
def spotOf (schema : Schema) (planned : List String × RootField) : Option Spot :=
  match schema.target planned.2.field with
  | .ok (.composite type) => some (Traversal.rootSpot planned.1 type planned.2.filter)
  | _ => none

theorem spotOf_eq_some {schema : Schema} {path : List String} {root : RootField} {spot : Spot} :
    spotOf schema (path, root) = some spot ↔
      ∃ type, schema.target root.field = .ok (.composite type) ∧
        spot = Traversal.rootSpot path type root.filter := by
  unfold spotOf
  split
  next type leads => simp [leads, eq_comm]
  next other => exact iff_of_false nofun fun ⟨type, leads, _⟩ => other type leads

def entitiesPathAfter (taken : List (List String)) : List String :=
  if [Traversal.entitiesSegment] ∈ taken then [federationSegment, Traversal.entitiesSegment]
  else [Traversal.entitiesSegment]

def plan (settings : Settings) (schema : Schema) (selected : Option SelectedRoots) :
    List (List String × RootField) :=
  planAfter [] (rootFields settings schema selected)

theorem filter_of_planned {settings : Settings} {schema : Schema}
    (definedOnly : settings.definedOnly = true) {selected : SelectedRoots} {path : List String}
    {root : RootField}
    (planned : (path, root) ∈ plan settings schema (some selected)) :
    ∃ filter, root.filter = some filter ∧
      selected.filter? root.kind root.field.name = some filter := by
  obtain ⟨type, -, -, -, gets⟩ := mem_rootFieldsOf.mp (path_of_mem_plan planned).1
  have kept : keptRoots settings (some selected) = some selected := if_pos definedOnly
  simp only [kept, rootFieldOf, Option.map_eq_some_iff] at gets
  obtain ⟨filter, found, same⟩ := gets
  exact ⟨filter, (congrArg RootField.filter same).symm, found⟩

def looksUp (settings : Settings) (schema : Schema) : Bool :=
  !(settings.skipEntities || schema.entities.isEmpty)

def entitiesSpot? (settings : Settings) (schema : Schema) (selected : Option SelectedRoots) :
    Option Spot :=
  if looksUp settings schema then
    some (Traversal.entitiesSpot
      (entitiesPathAfter (takenAfter [] (rootFields settings schema selected))) schema.entities)
  else none

theorem eq_of_mem_entitiesSpot? {settings : Settings} {schema : Schema}
    {selected : Option SelectedRoots} {spot : Spot}
    (asked : spot ∈ (entitiesSpot? settings schema selected).toList) :
    spot = Traversal.entitiesSpot
      (entitiesPathAfter (takenAfter [] (rootFields settings schema selected))) schema.entities := by
  obtain ⟨-, made⟩ := Option.ite_none_right_eq_some.mp (Option.mem_toList.mp asked)
  exact (Option.some.inj made).symm

def plannedSpots (settings : Settings) (schema : Schema) (selected : Option SelectedRoots) :
    List Spot :=
  (plan settings schema selected).filterMap (spotOf schema) ++
    (entitiesSpot? settings schema selected).toList

theorem entitiesPathAfter_notMem (roots : List RootField) :
    entitiesPathAfter (takenAfter [] roots) ∉ takenAfter [] roots := by
  unfold entitiesPathAfter
  split
  next =>
    rw [mem_takenAfter]
    rintro (none | ⟨root, planned⟩)
    · exact absurd none List.not_mem_nil
    · rcases (path_of_mem_plan planned).2 with path | ⟨-, path⟩
      · simp at path
      · rw [List.cons.injEq] at path
        cases kind : root.kind <;> rw [kind] at path <;> exact absurd path.1 (by decide)
  next free => exact free

/-- A path of a root projection is that of its root field, or of the look-up of entities. -/
theorem of_mem_plannedSpots {settings : Settings} {schema : Schema}
    {selected : Option SelectedRoots} {spot : Spot}
    (planned : spot ∈ plannedSpots settings schema selected) :
    ((∃ root ∈ rootFields settings schema selected, spot.path = [root.field.name] ∨
        root.kind ≠ .query ∧ spot.path = [root.kind.text, root.field.name]) ∨
      spot.path = [Traversal.entitiesSegment] ∨
      spot.path = [federationSegment, Traversal.entitiesSegment]) ∧ spot.purpose.trail = [] := by
  rcases List.mem_append.mp planned with planned | asked
  · obtain ⟨⟨path, root⟩, member, made⟩ := List.mem_filterMap.mp planned
    obtain ⟨inside, paths⟩ := path_of_mem_plan member
    obtain ⟨type, -, rfl⟩ := spotOf_eq_some.mp made
    exact ⟨.inl ⟨root, inside, paths⟩, rfl⟩
  · obtain rfl := eq_of_mem_entitiesSpot? asked
    refine ⟨.inr ?_, rfl⟩
    change entitiesPathAfter _ = _ ∨ entitiesPathAfter _ = _
    unfold entitiesPathAfter
    split
    · exact .inr rfl
    · exact .inl rfl

theorem length_le_two_of_mem_plannedSpots {settings : Settings} {schema : Schema}
    {selected : Option SelectedRoots} {spot : Spot}
    (planned : spot ∈ plannedSpots settings schema selected) : spot.path.length ≤ 2 := by
  rcases (of_mem_plannedSpots planned).1 with ⟨root, -, path | ⟨-, path⟩⟩ | path | path
  all_goals simp [path]

theorem path_ne_nil_of_mem_plannedSpots {settings : Settings} {schema : Schema}
    {selected : Option SelectedRoots} {spot : Spot}
    (planned : spot ∈ plannedSpots settings schema selected) : spot.path ≠ [] := by
  rcases (of_mem_plannedSpots planned).1 with ⟨root, -, path | ⟨-, path⟩⟩ | path | path
  all_goals simp [path]

/-- The segments that are put before a name that is taken. -/
def pathPrefixes : List String :=
  [OperationKind.mutation.text, OperationKind.subscription.text, federationSegment]

theorem prefix_of_mem_plannedSpots {settings : Settings} {schema : Schema}
    {selected : Option SelectedRoots} {spot : Spot}
    (planned : spot ∈ plannedSpots settings schema selected) {front last : String}
    (path : spot.path = [front, last]) : front ∈ pathPrefixes := by
  rcases (of_mem_plannedSpots planned).1 with ⟨root, -, same | ⟨kind, same⟩⟩ | same | same
  · simp [path] at same
  · obtain rfl : front = root.kind.text := (List.cons.inj (path.symm.trans same)).1
    cases named : root.kind with
    | query => exact absurd named kind
    | mutation => decide
    | subscription => decide
  · simp [path] at same
  · obtain rfl : front = federationSegment := (List.cons.inj (path.symm.trans same)).1
    decide

end Generation
end GraphQLProjections
