import GraphQLProjections.Proofs.Filter.Height
import GraphQLProjections.Proofs.Projection.Termination

/-! How far down traversals go. With a filter the way down ends with its nesting, whatever the unions
of the schema; without one it ends unless a union contains itself. So the levels of a traversal are
enough for roots with and without a filter, and for the look-up of entities. -/
namespace GraphQLProjections

open Building

variable {α : Type} {kinds : Error → Prop}

/-! ### Faults of a traversal -/

theorem enter_fails {path : List String} {inside : NodeId → String → Building Unit}
    {otherwise : String → Building α} {result : Link → α}
    (filling : ∀ id name, FailsWith (inside id name) kinds)
    (linking : ∀ name, FailsWith (otherwise name) kinds) :
    FailsWith (enter path inside otherwise result) kinds := by
  have claims : FailsWith (claim path NameSupply.projectionSuffix) kinds := fun _ => trivial
  refine claims.claimed linking fun name => ?_
  have opens : FailsWith (openNode name) kinds := fun _ => trivial
  exact opens.bind fun id => (filling id name).bind fun _ => .pure _

namespace Traversal

/-- A type that populating another goes down to, with what a filter leaves for it. -/
inductive LeadsTo (traversal : Traversal) (type : TypeDefinition) (filter : Option Filter) :
    TypeDefinition → Option Filter → Prop
  | field {field : FieldDefinition} {next : TypeDefinition} {below : Option Filter}
      (declared : field ∈ type.fields)
      (selected : partScope (filter.map (·.narrowed type.name)) (·.field? field.name) = some below)
      (leads : traversal.schema.target field = .ok (.composite next)) :
      LeadsTo traversal type filter next below
  | fragment {concrete : TypeDefinition} {below : Option Filter}
      (step : traversal.schema.Concrete type concrete)
      (selected :
        partScope (filter.map (·.narrowed type.name)) (·.fragment? concrete.name) = some below) :
      LeadsTo traversal type filter concrete below

variable {traversal : Traversal} {type next : TypeDefinition} {below : Option Filter}

theorem LeadsTo.known {filter : Option Filter} (leads : traversal.LeadsTo type filter next below) :
    next ∈ traversal.schema.types := by
  cases leads with
  | field _ _ leads => exact Schema.mem_types_of_target leads
  | fragment step => exact Schema.mem_types_of_concrete step

/-- One step into a narrowed filter. -/
theorem exists_lower {filter : Filter} {type : String} (step : SelectionStep)
    (selected : partScope (some (filter.narrowed type)) (·.step? step) = some below) :
    ∃ child, below = some child ∧ child.height < filter.height := by
  obtain ⟨child, found, rfl⟩ := Option.map_eq_some_iff.mp selected
  exact ⟨child, rfl, (Filter.height_lt_of_step found).trans_le (filter.height_narrowed_le type)⟩

theorem LeadsTo.lower {filter : Filter} (leads : traversal.LeadsTo type (some filter) next below) :
    ∃ child, below = some child ∧ child.height < filter.height := by
  cases leads with
  | field _ selected => exact exists_lower (.field _) selected
  | fragment _ selected => exact exists_lower (.fragment _) selected

section Faults

variable (linking : ∀ name, kinds (.nameCollision name)) {descend : Descent}
include linking

theorem linkTo_fails (name : String) : FailsWith (linkTo name) kinds := by
  refine .bind (fun _ => trivial) fun (workspace : Workspace) => ?_
  cases workspace.forest.id? name with
  | some id => exact .pure _
  | none => exact .throw (linking name)

theorem method?_fails (site : Site) (trail : List TrailStep) {scope : Option Filter}
    {field : FieldDefinition}
    (resolving : ∀ fault, traversal.schema.target field = .error fault → kinds fault)
    (descending : ∀ below next, partScope scope (·.field? field.name) = some below →
      traversal.schema.target field = .ok (.composite next) →
      ∀ site trail, FailsWith (descend site next trail below) kinds) :
    FailsWith (traversal.method? descend site trail scope field) kinds := by
  unfold method?
  split
  · exact .pure _
  next below selected =>
    refine .bind_result resolving fun target leads => ?_
    cases target with
    | leaf =>
      dsimp only
      split
      · exact .pure _
      · rw [argumentWrapper_eq]
        refine .bind (enter_fails ?_ (linkTo_fails linking)) fun _ => .pure _
        exact fun _ _ _ => trivial
    | composite next =>
      dsimp only
      split
      · exact .pure _
      · rw [child_eq]
        have fills := descending below next selected leads
        exact (enter_fails (fun _ _ => fills _ _) (linkTo_fails linking)).bind fun _ => .pure _

theorem accessor?_fails (site : Site) (trail : List TrailStep) {scope : Option Filter}
    {concrete : TypeDefinition}
    (descending : ∀ below, partScope scope (·.fragment? concrete.name) = some below →
      ∀ site trail, FailsWith (descend site concrete trail below) kinds) :
    FailsWith (accessor? descend site trail scope concrete) kinds := by
  unfold accessor?
  split
  · exact .pure _
  next below selected =>
    rw [fragment_eq]
    have fills := descending below selected
    refine (enter_fails (fun _ _ => fills _ _) fun name => ?_).bind fun _ => .pure _
    exact (linkTo_fails linking name).bind fun _ => .pure _

/-- Populating a type fails with the faults of its fields and those from further down. -/
theorem populateBy_fails {filter : Option Filter}
    (resolving : ∀ field ∈ type.fields, ∀ fault,
      traversal.schema.target field = .error fault → kinds fault)
    (descending : ∀ next below, traversal.LeadsTo type filter next below →
      ∀ site trail, FailsWith (descend site next trail below) kinds)
    (site : Site) (trail : List TrailStep) :
    FailsWith (traversal.populateBy descend site type trail filter) kinds := by
  refine (FailsWith.gather fun field declared => ?_).bind fun methods => ?_
  · exact method?_fails linking site trail (resolving field declared) fun below next selected leads =>
      descending next below (.field declared selected leads)
  · refine (FailsWith.gather fun concrete step => ?_).bind fun _ _ => trivial
    exact accessor?_fails linking site trail fun below selected =>
      descending concrete below (.fragment step selected)

theorem rootWithin_fails {bound : Nat} {field : FieldDefinition} {filter : Option Filter}
    (resolving : ∀ fault, traversal.schema.target field = .error fault → kinds fault)
    (populating : ∀ type, traversal.schema.target field = .ok (.composite type) →
      ∀ site, FailsWith (traversal.populate bound site type [] filter) kinds)
    (path : List String) : FailsWith (traversal.rootWithin bound path field filter) kinds := by
  refine .bind_result resolving fun target leads => ?_
  cases target with
  | leaf => exact .pure _
  | composite type =>
    refine .claimed (fun _ => trivial) (fun name => ?_) fun name => ?_
    · exact (linkTo_fails linking name).bind fun _ => .pure _
    · refine .bind (fun _ => trivial) fun id => ?_
      exact (populating type leads _).bind fun _ => .pure _

theorem entitiesWithin_fails {bound : Nat} {entities : List TypeDefinition}
    (populating : ∀ entity ∈ entities,
      ∀ site trail, FailsWith (traversal.populate bound site entity trail none) kinds)
    (path : List String) : FailsWith (traversal.entitiesWithin bound path entities) kinds := by
  unfold entitiesWithin
  split
  · exact .pure _
  · refine .claimed (fun _ => trivial) (fun name => .throw (linking name)) fun name => ?_
    refine .bind (fun _ => trivial) fun id => ?_
    refine (FailsWith.gather fun entity member => ?_).bind fun _ _ => trivial
    refine accessor?_fails linking _ _ fun below selected => ?_
    obtain rfl := Option.some.inj selected
    exact populating entity member

end Faults

/-! ### The levels are enough -/

theorem target_ne_endlessUnion {field : FieldDefinition} {fault : Error}
    (unresolved : traversal.schema.target field = .error fault) (type : String) :
    fault ≠ .endlessUnion type := by
  rw [Schema.target_eq_error unresolved]
  exact nofun

/-- A filter ends the way down within any bound that is more than its height. -/
theorem populate_ends_filtered {bound : Nat} {filter : Filter} (enough : filter.height < bound)
    (site : Site) (type : TypeDefinition) (trail : List TrailStep) :
    FailsWith (traversal.populate bound site type trail (some filter))
      fun fault => ∀ type, fault ≠ .endlessUnion type := by
  induction bound generalizing filter site type trail with
  | zero => exact absurd enough (Nat.not_lt_zero _)
  | succ bound ih =>
    refine populateBy_fails (fun _ => nofun) (fun _ _ _ => target_ne_endlessUnion)
      (fun next below leads site trail => ?_) site trail
    obtain ⟨child, rfl, lower⟩ := leads.lower
    exact ih (lower.trans_le (Nat.lt_succ_iff.mp enough)) site next trail

theorem rootWithin_ends_filtered {bound : Nat} {filter : Filter} (enough : filter.height < bound)
    (path : List String) (field : FieldDefinition) (workspace : Workspace) :
    ¬Exhausts (traversal.rootWithin bound path field (some filter)) workspace := by
  refine not_exhausts_iff.mpr ?_ workspace
  exact rootWithin_fails (fun _ => nofun) (fun _ => target_ne_endlessUnion)
    (fun type _ site => populate_ends_filtered enough site type []) path

/-- A traversal with a filter comes to an end from any workspace and in any schema: it never runs out
of its bound, and any bound above the height of the filter gives the same. -/
theorem rootAt_ends_filtered (path : List String) (field : FieldDefinition) (filter : Filter)
    (workspace : Workspace) :
    ¬Exhausts (traversal.rootAt path field (some filter)) workspace ∧
      ∀ bound, filter.height < bound →
        (traversal.rootWithin bound path field (some filter)).outcome workspace =
          (traversal.rootAt path field (some filter)).outcome workspace := by
  have least : ¬Exhausts (traversal.rootWithin (filter.height + 1) path field (some filter))
      workspace := rootWithin_ends_filtered (Nat.lt_succ_self _) path field workspace
  have wider {bound : Nat} (enough : filter.height < bound) :
      (traversal.rootWithin bound path field (some filter)).outcome workspace =
        (traversal.rootWithin (filter.height + 1) path field (some filter)).outcome workspace := by
    obtain ⟨more, rfl⟩ := Nat.exists_eq_add_of_le (Nat.succ_le_of_lt enough)
    exact rootWithin_extends _ more path field (some filter) workspace least
  have levels : filter.height < traversal.levels (some filter) := by
    unfold levels
    rw [Option.map_some, Option.getD_some]
    exact Nat.lt_add_of_pos_left (Nat.mul_pos (Nat.succ_pos _) (Nat.succ_pos _))
  refine ⟨rootWithin_ends_filtered levels path field workspace, fun bound enough => ?_⟩
  rw [wider enough, rootAt_eq_rootWithin, wider levels]

/-- No root of a schema whose unions do not contain themselves runs out of its levels. -/
theorem rootAt_not_exhausts (acyclic : traversal.schema.UnionsAcyclic) (path : List String)
    (field : FieldDefinition) (filter : Option Filter) (workspace : Workspace) :
    ¬Exhausts (traversal.rootAt path field filter) workspace := by
  cases filter with
  | none => exact (rootAt_draws acyclic path field workspace).not_exhausts
  | some filter => exact (rootAt_ends_filtered path field filter workspace).1

end Traversal
end GraphQLProjections
