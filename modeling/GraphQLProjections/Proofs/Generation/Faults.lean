import GraphQLProjections.Proofs.Generation.Run
import GraphQLProjections.Proofs.Projection.Levels

/-! The faults of a generation, each with its cause: a field of unknown type, a union that contains
itself, a key that cannot be read, a name that is taken, a selected root field that the root type
lacks, or no operation document. -/
namespace GraphQLProjections

open Generation Building

/-- The faults of the steps of a run, apart from selected root fields that a type lacks. -/
inductive RunFault (schema : Schema) : Error → Prop
  | unresolved {fault : Error} (type : TypeDefinition) (field : FieldDefinition)
      (known : type ∈ schema.types) (declared : field ∈ type.fields)
      (unresolved : schema.target field = .error fault) : RunFault schema fault
  | endlessUnion (type : String) (cyclic : ¬schema.UnionsAcyclic) :
      RunFault schema (.endlessUnion type)
  | nameCollision (name : String) : RunFault schema (.nameCollision name)
  | malformedKey {fault : Error} (entity : TypeDefinition) (selection : String)
      (known : entity ∈ schema.types) (listed : selection ∈ Cataloguing.keyTexts entity)
      (malformed : KeyTree.parse entity.name selection = .error fault) : RunFault schema fault

namespace Traversal

variable {α : Type} {traversal : Traversal}

/-- Whether going down runs out of its bound is told of whole traversals only. -/
theorem populate_fails (bound : Nat) (site : Site) {type : TypeDefinition}
    (known : type ∈ traversal.schema.types) (trail : List TrailStep) (filter : Option Filter) :
    FailsWith (traversal.populate bound site type trail filter) fun fault =>
      RunFault traversal.schema fault ∨ ∃ union, fault = .endlessUnion union := by
  induction bound generalizing site type trail filter with
  | zero => exact .throw (.inr ⟨type.name, rfl⟩)
  | succ bound ih =>
    refine populateBy_fails (fun name => .inl (.nameCollision name))
      (fun field declared _ unresolved => .inl (.unresolved type field known declared unresolved))
      (fun next below leads site trail => ih site leads.known trail below) site trail

/-- A traversal runs out of its bound only if a union contains itself. -/
theorem runFault_of_ends {step : Building α} {schema : Schema}
    (fails : FailsWith step fun fault =>
      RunFault schema fault ∨ ∃ union, fault = .endlessUnion union)
    (ends : schema.UnionsAcyclic → ∀ workspace, ¬Exhausts step workspace) :
    FailsWith step (RunFault schema) := by
  by_cases acyclic : schema.UnionsAcyclic
  · refine (fails.and (not_exhausts_iff.mp (ends acyclic))).mono fun fault ⟨known, inside⟩ => ?_
    exact known.resolve_right fun ⟨union, out⟩ => inside union out
  · refine fails.mono fun fault known => known.elim id ?_
    rintro ⟨union, rfl⟩
    exact .endlessUnion union acyclic

theorem rootAt_fails (path : List String) (filter : Option Filter) {type : TypeDefinition}
    (known : type ∈ traversal.schema.types) {field : FieldDefinition}
    (declared : field ∈ type.fields) :
    FailsWith (traversal.rootAt path field filter) (RunFault traversal.schema) := by
  refine runFault_of_ends (rootWithin_fails (fun name => .inl (.nameCollision name))
    (fun _ unresolved => .inl (.unresolved type field known declared unresolved))
    (fun next leads site => ?_) path) fun acyclic => rootAt_not_exhausts acyclic path field filter
  exact populate_fails _ site (Schema.mem_types_of_target leads) [] filter

theorem entitiesAt_fails (path : List String) {entities : List TypeDefinition}
    (known : ∀ entity ∈ entities, entity ∈ traversal.schema.types) :
    FailsWith (traversal.entitiesAt path entities) (RunFault traversal.schema) := by
  refine runFault_of_ends (entitiesWithin_fails (fun name => .inl (.nameCollision name))
    (fun entity member site trail => ?_) path)
    fun acyclic workspace => (entitiesAt_draws acyclic path known workspace).not_exhausts
  exact populate_fails _ site (known entity member) trail none

end Traversal

/-! ### Representations -/

namespace Cataloguing

variable {schema : Schema}

theorem represent_fails (type : TypeDefinition) (tree : KeyTree) (known : type ∈ schema.types) :
    FailsWith (represent schema type tree) (RunFault schema) := by
  revert known
  refine represent_induction
    (fun type _ step => type ∈ schema.types → FailsWith step (RunFault schema))
    (fun type _ step => type ∈ schema.types → FailsWith step (RunFault schema))
    ?_ ?_ ?_ ?_ ?_ ?_ type tree
  · intro type selected fields known
    unfold represent
    refine .claimed (fun _ => trivial) (fun _ => .pure _) fun name => ?_
    refine .bind (fun _ => trivial) fun index => ?_
    exact (fields known).bind fun _ _ => trivial
  · exact fun _ => .pure _
  · exact fun _ ih => ih
  · exact fun found fails known =>
      .throw (.unresolved _ _ known (List.mem_of_find?_eq_some found) fails)
  · exact fun _ _ _ ih known => (ih known).bind fun _ => .pure _
  · exact fun _ leads _ nested ih known =>
      (nested (Schema.mem_types_of_target leads)).bind fun _ => (ih known).bind fun _ => .pure _

theorem representEntity_fails {entity : TypeDefinition} (known : entity ∈ schema.types) :
    FailsWith (representEntity schema entity) (RunFault schema) := by
  refine .bind_result (fun fault fails => ?_) fun keys _ => ?_
  · obtain ⟨text, listed, malformed⟩ := exists_of_mapM_error fails
    exact .malformedKey entity text known listed malformed
  · split
    · exact .pure _
    · exact (represent_fails entity _ known).bind fun _ => .pure _

theorem representAll_fails {entities : List TypeDefinition}
    (known : ∀ entity ∈ entities, entity ∈ schema.types) :
    FailsWith (representAll schema entities) (RunFault schema) := by
  induction entities with
  | nil => exact .pure _
  | cons entity rest ih =>
    exact (representEntity_fails (known entity List.mem_cons_self)).discard.bind
      fun _ => ih fun other member => known other (List.mem_cons_of_mem _ member)

end Cataloguing

theorem KeyTree.parse_eq_error {entity selection : String} {fault : Error}
    (fails : KeyTree.parse entity selection = .error fault) :
    ∃ cause, fault = .malformedKey entity selection cause := by
  unfold KeyTree.parse at fails
  split at fails
  · cases fails
  next cause _ => exact ⟨cause, (Except.error.inj fails).symm⟩

/-! ### Runs -/

namespace Generation

variable {settings : Settings} {schema : Schema} {traversal : Traversal}
  {selected : Option SelectedRoots}

theorem reserveNew_fails (path : List String) (suffix : String) :
    FailsWith (reserveNew path suffix) (RunFault schema) := by
  have claims : FailsWith (claim path suffix) (RunFault schema) := fun _ => trivial
  exact claims.claimed (fun name => .throw (.nameCollision name)) fun _ => .pure _

theorem rootPath_fails (kind : OperationKind) (field : String) :
    FailsWith (rootPath kind field) (RunFault schema) := by
  unfold rootPath
  split
  · exact .pure _
  · refine .bind (fun _ => trivial) fun taken => ?_
    split <;> exact .pure _

theorem rootOperation_fails (kind : OperationKind) (filter : Option Filter) {type : TypeDefinition}
    (known : type ∈ traversal.schema.types) {field : FieldDefinition}
    (declared : field ∈ type.fields) :
    FailsWith (rootOperation traversal kind filter field) (RunFault traversal.schema) := by
  refine (rootPath_fails kind field.name).bind fun path => ?_
  refine (Traversal.rootAt_fails path filter known declared).bind fun root => ?_
  refine .bind (fun _ => trivial) fun projectionRoot => ?_
  exact (reserveNew_fails path NameSupply.querySuffix).bind fun _ => .pure _

/-- A selected root field that the root type of an included kind lacks, with its report. -/
inductive UnknownRoot (settings : Settings) (schema : Schema) (selected : Option SelectedRoots) :
    Error → Prop
  | lacks (roots : SelectedRoots) (kind : OperationKind) (type : TypeDefinition) (name : String)
      (kept : selected = some roots) (listed : (kind, type) ∈ schema.rootTypes)
      (included : includes settings kind = true)
      (unknown : unknownRoot? roots kind type = some name) :
      UnknownRoot settings schema selected (.unknownOperationField type.name name)

theorem rootTypeOperations_fails {kind : OperationKind} {type : TypeDefinition}
    (listed : (kind, type) ∈ traversal.schema.rootTypes)
    (included : includes settings kind = true) :
    FailsWith (rootTypeOperations traversal selected kind type) fun fault =>
      RunFault traversal.schema fault ∨ UnknownRoot settings traversal.schema selected fault := by
  have known := mem_types_of_rootTypes listed
  refine .bind ?_ fun _ => .gather fun field declared => ?_
  · unfold checkRoots
    split
    next name unknown =>
      obtain ⟨roots, kept, unknown⟩ := Option.bind_eq_some_iff.mp unknown
      exact .throw (.inr (.lacks roots kind type name kept listed included unknown))
    next => exact .pure _
  · apply FailsWith.mono ?_ fun _ => Or.inl
    split
    · exact (rootOperation_fails kind none known declared).bind fun _ => .pure _
    · split
      · exact .pure _
      · exact (rootOperation_fails kind _ known declared).bind fun _ => .pure _

theorem rootOperations_fails {types : List (OperationKind × TypeDefinition)}
    (listed : types ⊆ traversal.schema.rootTypes) :
    FailsWith (rootOperations settings traversal selected types) fun fault =>
      RunFault traversal.schema fault ∨ UnknownRoot settings traversal.schema selected fault := by
  induction types with
  | nil => exact .pure _
  | cons first rest ih =>
    obtain ⟨first', rest'⟩ := List.cons_subset.mp listed
    unfold rootOperations
    split
    next included =>
      refine (rootTypeOperations_fails first' included).bind fun _ => ?_
      exact (ih rest').bind fun _ => .pure _
    next => exact ih rest'

theorem entityOperations_fails :
    FailsWith (entityOperations settings traversal) (RunFault traversal.schema) := by
  unfold entityOperations
  dsimp only
  split
  · exact .pure _
  · have entitiesPath_fails : FailsWith entitiesPath (RunFault traversal.schema) := by
      refine .bind (fun _ => trivial) fun taken => ?_
      split <;> exact .pure _
    refine entitiesPath_fails.bind fun path => ?_
    refine (Traversal.entitiesAt_fails path fun _ => mem_types_of_entities).bind fun root => ?_
    refine .bind (fun _ => trivial) fun projectionRoot => ?_
    refine .bind (fun workspace => ?_) fun representations => ?_
    · apply entityRepresentations_of_representAll
      exact Cataloguing.representAll_fails (fun _ => mem_types_of_entities) _
    · exact (reserveNew_fails path NameSupply.querySuffix).bind fun _ => .pure _

theorem run_fails : FailsWith (run settings schema selected) fun fault =>
    RunFault schema fault ∨ UnknownRoot settings schema selected fault := by
  refine (rootOperations_fails (List.Subset.refl _)).bind fun _ => ?_
  exact (entityOperations_fails.mono fun _ => Or.inl).bind fun _ => .pure _

theorem scope_eq_error {fault : Error} (fails : scope settings selected = .error fault) :
    fault = .settings .noOperationDocument := by
  unfold scope at fails
  split at fails
  · cases selected with
    | none => exact (Except.error.inj fails).symm
    | some _ => cases fails
  · cases fails

/-- Why a generation has failed. -/
theorem generate_error {fault : Error} (fails : generate settings schema selected = .error fault) :
    RunFault schema fault ∨ UnknownRoot settings schema (keptRoots settings selected) fault ∨
      scope settings selected = .error fault := by
  unfold generate at fails
  cases keeping : scope settings selected with
  | error other =>
    rw [keeping] at fails
    obtain rfl := Except.error.inj fails
    exact .inr (.inr rfl)
  | ok kept =>
    obtain rfl := scope_eq keeping
    rcases ran : (run settings schema (keptRoots settings selected)).outcome
      (.empty settings.shortNames) with ⟨result, workspace⟩
    cases result with
    | error other =>
      simp only [keeping, ran, bind, Except.bind, Except.error.injEq] at fails
      subst fails
      rcases (run_fails _).of_error ran with fault | unknown
      · exact .inl fault
      · exact .inr (.inl unknown)
    | ok produced =>
      simp only [keeping, ran, bind, Except.bind] at fails
      split at fails
      next name _ =>
        obtain rfl := Except.error.inj fails
        exact .inl (.nameCollision name)
      next => cases fails

/-- Generation comes to an end for every selection and all settings, unless a union contains
itself. -/
theorem generate_ne_endlessUnion (acyclic : schema.UnionsAcyclic) (type : String) :
    generate settings schema selected ≠ .error (.endlessUnion type) := by
  intro fails
  rcases generate_error fails with fault | unknown | unscoped
  · cases fault with
    | unresolved _ _ _ _ unresolved => cases Schema.target_eq_error unresolved
    | endlessUnion _ cyclic => exact cyclic acyclic
    | malformedKey _ _ _ _ malformed =>
      obtain ⟨cause, same⟩ := KeyTree.parse_eq_error malformed
      cases same
  · cases unknown
  · cases scope_eq_error unscoped

end Generation
end GraphQLProjections
