import GraphQLProjections.Proofs.Generation.Integrity
import GraphQLProjections.Proofs.Generation.Mirroring
import GraphQLProjections.Proofs.Projection.Cutting

/-! The depth bound of an output. No node stands deeper, those at the bound lead to no further ones
by a field, and where no operations are selected the truncated ones are those at the bound with a
field to leave out. -/
namespace GraphQLProjections

open Generation

/-- The nodes of an output keep to the depth bound, and are truncated where it leaves something
out. -/
structure Output.KeepsBound (output : Output) (settings : Settings) (schema : Schema) : Prop where
  within : ∀ bound, settings.maxDepth = some bound →
    ∀ node ∈ output.projections, node.depth ≤ bound
  last : ∀ bound, settings.maxDepth = some bound →
    ∀ node ∈ output.projections, node.depth = bound → ∀ method ∈ node.methods, method.link = none
  /-- The projection of the union of entities has no fields to leave out, nor has one of
  arguments. -/
  truncated : settings.definedOnly = false →
    ∀ node ∈ output.projections, node.kind ≠ .argumentWrapper →
      output.entitiesRoot? settings schema ≠ some node.name →
      ∃ type, schema.type? node.type = some type ∧
        (node.truncated = true ↔ settings.maxDepth = some node.depth ∧
          ∃ field ∈ type.fields, ∃ target, schema.target field = .ok (.composite target))
  whole : settings.maxDepth = none → ∀ node ∈ output.projections, node.truncated = false

namespace Traversal

variable {schema : Schema} {bound : Nat} {traversal : Traversal} {spot : Spot}

theorem leadsToComposite_iff {field : FieldDefinition} :
    traversal.leadsToComposite field = true ↔
      ∃ target, traversal.schema.target field = .ok (.composite target) := by
  unfold leadsToComposite
  split
  next target leads => exact iff_of_true rfl ⟨target, leads⟩
  next other => exact iff_of_false nofun fun ⟨target, leads⟩ => other target leads

/-- Without a filter, the bound cuts what stands at it and has a composite field. -/
theorem cutsAt_iff (unfiltered : spot.purpose.scope = none)
    (within : ∀ bound, traversal.maxDepth = some bound → spot.depth ≤ bound) :
    traversal.cutsAt spot = true ↔ traversal.maxDepth = some spot.depth ∧
      ∃ field ∈ spot.purpose.fields, ∃ target,
        traversal.schema.target field = .ok (.composite target) := by
  have reached : traversal.boundsAt spot.depth = true ↔ traversal.maxDepth = some spot.depth := by
    unfold boundsAt
    cases bounded : traversal.maxDepth with
    | none => simp
    | some bound =>
      have below := within bound bounded
      simp only [Option.any_some, decide_eq_true_eq, Option.some.injEq]
      omega
  simp only [cutsAt, Bool.and_eq_true, List.any_eq_true, reached, unfiltered, partScope,
    Option.isSome_some, true_and, leadsToComposite_iff]

theorem link_eq_none_of_bound {link : List String → Option Link} {opening : Opening}
    (last : opening.depth = bound) {method : SelectionMethod}
    (listed : method ∈ (render ⟨schema, some bound⟩ link opening).methods) :
    method.link = none := by
  obtain ⟨field, -, made⟩ := List.mem_filterMap.mp listed
  obtain ⟨-, rfl⟩ := methodAt_eq_some.mp made
  simp [requestOfField_within, last]

end Traversal

namespace Generation

variable {settings : Settings} {schema : Schema} {selected : Option SelectedRoots}

/-- Whatever is generated, with selected roots or without, keeps to the depth bound. -/
theorem keepsBound_of_generate {texts : List String} {reading : Settings}
    (read : Schema.ofDocuments texts reading = .ok schema) {output : Output}
    (ok : generate settings schema selected = .ok output) :
    output.KeepsBound settings schema := by
  have wellFormed := Schema.wellFormed_of_ofDocuments read
  obtain ⟨openings, workspace, carried, nodes⟩ := carried_of_generate wellFormed ok
  obtain ⟨others, paths, standing⟩ := carried.standing
  have complete := standing.complete
  have within (bound : Nat) (bounded : settings.maxDepth = some bound) :
      ∀ opening ∈ openings, opening.depth ≤ bound := by
    have faithful := complete.toFaithful
    rw [bounded] at faithful
    refine faithful.depth_le_bound fun root member kind => ?_
    rw [depth_of_mem_plannedSpots (standing.mem_spots.mpr ⟨root, member, kind, rfl⟩)]
    exact Nat.zero_le _
  constructor <;> rw [nodes]
  · intro bound bounded
    exact List.forall_mem_map.mpr (within bound bounded)
  · intro bound bounded
    rw [bounded]
    exact List.forall_mem_map.mpr fun opening _ last method listed =>
      Traversal.link_eq_none_of_bound last listed
  · intro all
    refine List.forall_mem_map.mpr fun opening member kind apart => ?_
    have plain := unfiltered_of_standing all standing opening member
    unfold Spot.Unfiltered at plain
    split at plain
    next type trail filter purpose =>
      subst plain
      have known : type ∈ schema.types := by
        have within := (complete.grounded opening member).within
        rwa [purpose] at within
      have typed : (Traversal.render ⟨schema, settings.maxDepth⟩ workspace.linkAt opening).type =
          type.name := congrArg Purpose.typeName purpose
      have fieldsOf : opening.purpose.fields = type.fields := congrArg Purpose.fields purpose
      refine ⟨type, typed ▸ wellFormed.type?_name known, ?_⟩
      rw [← fieldsOf]
      exact Traversal.cutsAt_iff (congrArg Purpose.scope purpose) fun bound bounded =>
        within bound bounded opening member
    next wrapper => exact absurd plain kind
    next purpose => exact absurd (carried.entitiesRoot? rfl member plain purpose) apart
  · intro unbounded
    rw [unbounded]
    exact List.forall_mem_map.mpr fun _ _ => rfl

def crewDocument : String :=
  "type Query \x7b film: Film \x7d
  type Film \x7b title(length: Int): String crew: Crew \x7d
  union Crew = Actor | Director
  type Actor @key(fields: \"name\") \x7b name: String \x7d
  type Director \x7b film: Film \x7d"

def shallowSettings : Settings := { Settings.standard with maxDepth := some 1 }

theorem keepsBound_crewDocument : ∃ schema output,
    Schema.ofDocuments [crewDocument] shallowSettings = .ok schema ∧
      generate shallowSettings schema none = .ok output ∧
      (∃ node ∈ output.projections, node.kind = .argumentWrapper ∧ node.depth = 1) ∧
      (∃ node ∈ output.projections, node.type = "Director" ∧ node.truncated = true) ∧
      (∃ node ∈ output.projections, node.type = "Actor" ∧ node.depth = 1) ∧
      (∃ node ∈ output.projections, node.type = Traversal.entityUnion) ∧
      output.KeepsBound shallowSettings schema := by
  obtain ⟨schema, output, read, ok, found⟩ := exists_generated_with shallowSettings crewDocument
    (fun _ output => decide (
      (∃ node ∈ output.projections, node.kind = .argumentWrapper ∧ node.depth = 1) ∧
      (∃ node ∈ output.projections, node.type = "Director" ∧ node.truncated = true) ∧
      (∃ node ∈ output.projections, node.type = "Actor" ∧ node.depth = 1) ∧
      ∃ node ∈ output.projections, node.type = Traversal.entityUnion)) (by decide +kernel)
  obtain ⟨wrapper, director, actor, entities⟩ := of_decide_eq_true found
  exact ⟨schema, output, read, ok, wrapper, director, actor, entities,
    keepsBound_of_generate read ok⟩

end Generation
end GraphQLProjections
