import GraphQLProjections.Proofs.Generation.Collisions
import GraphQLProjections.Proofs.Generation.Resolution

/-! The graph of representations. A type is represented once, under a name of its own; what a
representation refers to is there, and nothing is there but for entities and references. -/
namespace GraphQLProjections

open Generation

/-- The representations of an output refer to each other only, each type to one of its own. -/
structure Output.ClosedRepresentations (output : Output) (schema : Schema) : Prop where
  names : (output.representations.map (·.name)).Nodup
  types : (output.representations.map (·.type)).Nodup
  /-- The type name comes first, then fields that the type declares. -/
  fields : ∀ representation ∈ output.representations,
    ∃ type, schema.type? representation.type = some type ∧ ∃ values,
      representation.fields = Representation.typeNameField representation.type :: values ∧
      ∀ value ∈ values, ∃ field ∈ type.fields, field.name = value.name ∧ field.type = value.type
  /-- A reference is to the representation of the object type that the field is of. -/
  references : ∀ representation ∈ output.representations, ∀ value ∈ representation.fields,
    ∀ name, value.kind = .composite name →
      ∃ type, schema.type? value.type.innermost = some type ∧ type.isObject = true ∧
        ∃ target ∈ output.representations,
          target.name = name ∧ target.type = value.type.innermost
  needed : ∀ representation ∈ output.representations,
    (∃ entity ∈ schema.entities, entity.name = representation.type) ∨
      ∃ other ∈ output.representations, other ≠ representation ∧
        ∃ value ∈ other.fields, value.kind = .composite representation.name

namespace Generation

variable {settings : Settings} {schema : Schema} {selected : Option SelectedRoots}

/-- Whatever is generated, its representations are closed and none is given twice. -/
theorem closedRepresentations_of_generate {texts : List String} {reading : Settings}
    (read : Schema.ofDocuments texts reading = .ok schema) {output : Output}
    (ok : generate settings schema selected = .ok output) :
    output.ClosedRepresentations schema := by
  have wellFormed := Schema.wellFormed_of_ofDocuments read
  obtain ⟨openings, workspace, carried, -⟩ := carried_of_generate wellFormed ok
  obtain ⟨_, _, _, _, -, -, -, unique⟩ := generate_eq_ok.mp ok
  have names := (Output.nodup_of_repeatedName? unique).1
  refine ⟨?_, carried.representations.distinct, fun representation listed => ?_,
    fun representation listed value inside name refers => ?_, fun representation listed => ?_⟩
  · exact (List.nodup_append.mp (List.nodup_append.mp names).1).2.1
  · obtain ⟨type, known, values, filled, declared⟩ := resolved_representation wellFormed ok listed
    refine ⟨type, known, values, filled, fun value kept => ?_⟩
    obtain ⟨field, inside, named, typed, -⟩ := declared value kept
    exact ⟨field, inside, named, typed⟩
  · obtain ⟨type, known, object, entered⟩ :=
      carried.join.leads representation listed value inside name refers
    obtain ⟨target, listed', same⟩ := List.mem_map.mp entered
    obtain ⟨named, typed⟩ := Prod.mk.inj same
    exact ⟨type, known, object, target, listed', named, typed.trans (Schema.name_of_type? known)⟩
  · refine (carried.join.needed representation listed).imp_right fun ⟨other, inside, refers⟩ => ?_
    exact ⟨other, inside, fun same => refers.1 (congrArg Representation.type same), refers.2⟩

def kinshipDocument : String :=
  "type Person @key(fields: \"kin \x7bid\x7d pet \x7bof \x7bid\x7d\x7d home \x7bid\x7d\")
  \x7bid: ID kin: Person pet: [Pet!] home: Home\x7d
  type Pet @key(fields: \"of \x7bid\x7d\") \x7bof: Person\x7d
  type Home \x7bid: ID\x7d"

def flatSettings : Settings := { Settings.standard with maxDepth := some 0 }

def representedKinds (output : Output) : List (String × List RepresentationFieldKind) :=
  output.representations.map fun representation =>
    (representation.type, representation.fields.map (·.kind))

theorem closedRepresentations_kinshipDocument : ∃ schema output,
    Schema.ofDocuments [kinshipDocument] flatSettings = .ok schema ∧
      flatSettings.skipEntities = false ∧ generate flatSettings schema none = .ok output ∧
      representedKinds output =
        [("Person", [.typeName "Person", .composite "PersonRepresentation",
            .composite "PetRepresentation", .composite "HomeRepresentation"]),
          ("Pet", [.typeName "Pet", .composite "PersonRepresentation"]),
          ("Home", [.typeName "Home", .scalar])] ∧
      output.ClosedRepresentations schema := by
  obtain ⟨schema, output, read, ok, found⟩ := exists_generated_with flatSettings kinshipDocument
    (fun _ output => decide (representedKinds output =
        [("Person", [.typeName "Person", .composite "PersonRepresentation",
            .composite "PetRepresentation", .composite "HomeRepresentation"]),
          ("Pet", [.typeName "Pet", .composite "PersonRepresentation"]),
          ("Home", [.typeName "Home", .scalar])])) (by decide +kernel)
  exact ⟨schema, output, read, rfl, ok, of_decide_eq_true found,
    closedRepresentations_of_generate read ok⟩

end Generation
end GraphQLProjections
