import GraphQLProjections.Proofs.Building
import GraphQLProjections.Proofs.NameSupply
import GraphQLProjections.Proofs.Reading
import GraphQLProjections.Schema.Basic

/-! What holds of every schema that is read from documents: its types have distinct names, types and
fields are named by names of the language, so paths made of them are plain, and fields are owned by
the types that hold them. -/
namespace GraphQLProjections

theorem Document.IsName.isPlain {text : String} (name : Document.IsName text) : IsPlain text := by
  constructor
  · intro member
    exact absurd (name.isNamePart member) (by decide)
  · intro member
    exact absurd (name.isNamePart member) (by decide)

structure FieldDefinition.IsNamed (owner : String) (field : FieldDefinition) : Prop where
  name : Document.IsName field.name
  owned : field.owner = owner

structure TypeDefinition.IsNamed (type : TypeDefinition) : Prop where
  name : Document.IsName type.name
  fields : ∀ field ∈ type.fields, field.IsNamed type.name

namespace Schema

structure WellFormed (schema : Schema) : Prop where
  distinct : (schema.types.map (·.name)).Nodup
  named : ∀ type ∈ schema.types, type.IsNamed

namespace Grammar

open Document Document.Reading

theorem description_yields : Yields description fun _ => True := by
  apply peek_yields.bind
  intro _ _
  split
  · exact skip_yields
  · exact .pure trivial

theorem directives_yields : Yields directives fun _ => True :=
  (many_yields _ (skip_yields.bind fun _ _ => name_yields.bind fun _ _ =>
    callArguments_yields.bind fun _ _ => .pure_any _)).any

/-- The default value of an argument that is read is exact, but for its floats. -/
theorem inputValue_yields : Yields inputValue fun argument =>
    ∀ value ∈ argument.defaultValue, ¬value.HoldsFloat → value.IsExact := by
  have default : Yields (some <$> constantLiteral) fun value? =>
      ∀ value ∈ value?, ¬value.HoldsFloat → value.IsExact := by
    refine constantLiteral_yields.map fun _ read => ?_
    rintro _ ⟨⟩
    exact read
  refine description_yields.bind fun _ _ => name_yields.bind fun _ _ =>
    (mark_yields _).bind fun _ _ => typeRef_yields.bind fun _ _ =>
    (optionalMark_yields _).bind fun _ _ => ?_
  split
  · exact default.bind fun _ read => directives_yields.discard.bind fun _ _ => .pure read
  · exact directives_yields.discard.bind fun _ _ => .pure nofun

theorem argumentDefinitions_yields : Yields argumentDefinitions fun _ => True :=
  (optionalGroup_yields _ _ _ inputValue_yields).any

theorem field_yields (owner : String) :
    Yields (field owner) (FieldDefinition.IsNamed owner) :=
  description_yields.bind fun _ _ => name_yields.bind fun _ name =>
    argumentDefinitions_yields.bind fun _ _ => (mark_yields _).bind fun _ _ =>
    typeRef_yields.bind fun _ _ => directives_yields.bind fun _ _ => .pure ⟨name, rfl⟩

theorem fields_yields (owner : String) :
    Yields (fields owner) fun fields => ∀ field ∈ fields, field.IsNamed owner :=
  optionalGroup_yields _ _ _ (field_yields owner)

theorem interfaces_yields : Yields interfaces fun _ => True := by
  apply (optionalKeyword_yields _).bind
  intro _ _
  split
  · exact (optionalMark_yields _).discard.bind fun _ _ => (separated_yields _ name_yields).any
  · exact .pure trivial

theorem members_yields : Yields members fun _ => True := by
  apply (optionalMark_yields _).bind
  intro _ _
  split
  · exact (optionalMark_yields _).discard.bind fun _ _ => (separated_yields _ name_yields).any
  · exact .pure trivial

theorem enumValue_yields : Yields enumValue fun _ => True :=
  description_yields.bind fun _ _ => name_yields.bind fun _ _ =>
    directives_yields.discard.bind fun _ _ => .pure trivial

theorem typeAfter_yields (keyword : String) :
    Yields (typeAfter keyword) TypeDefinition.IsNamed := by
  have unfielded {name : String} (isName : IsName name) {type : TypeDefinition}
      (same : type.name = name) (none : type.fields = []) : type.IsNamed :=
    ⟨same ▸ isName, by simp [none]⟩
  unfold typeAfter
  split
  · exact name_yields.bind fun _ name => directives_yields.bind fun _ _ =>
      .pure (unfielded name rfl rfl)
  · exact name_yields.bind fun _ name => interfaces_yields.bind fun _ _ =>
      directives_yields.bind fun _ _ => (fields_yields _).bind fun _ fields => .pure ⟨name, fields⟩
  · exact name_yields.bind fun _ name => interfaces_yields.bind fun _ _ =>
      directives_yields.bind fun _ _ => (fields_yields _).bind fun _ fields => .pure ⟨name, fields⟩
  · exact name_yields.bind fun _ name => directives_yields.bind fun _ _ =>
      members_yields.bind fun _ _ => .pure (unfielded name rfl rfl)
  · exact name_yields.bind fun _ name => directives_yields.bind fun _ _ =>
      (optionalGroup_yields _ _ _ enumValue_yields).bind fun _ _ => .pure (unfielded name rfl rfl)
  · exact name_yields.bind fun _ name => directives_yields.bind fun _ _ =>
      (optionalGroup_yields _ _ _ inputValue_yields).bind fun _ _ => .pure (unfielded name rfl rfl)
  · exact refuse_yields _

def DeclarationNamed : Declaration → Prop
  | .type definition => definition.IsNamed
  | .extension addition => addition.IsNamed
  | _ => True

theorem extension_yields : Yields extension DeclarationNamed := by
  apply token_yields.bind
  intro _ _
  split
  · split
    · refine skip_yields.bind fun _ _ => (typeAfter_yields _).bind fun _ named => ?_
      split
      · exact (Yields.throw _ fun _ => True).bind fun _ _ => .pure named
      · exact .pure named
    · exact refuse_yields _
  · exact refuse_yields _

theorem rootBlock_yields : Yields rootBlock DeclarationNamed := by
  have pair : Yields (do
      let operation ← name
      mark ':'
      let type ← name
      pure (operation, type)) fun _ => True :=
    name_yields.bind fun _ _ => (mark_yields _).bind fun _ _ => name_yields.bind fun _ _ =>
      .pure trivial
  refine token_yields.bind fun _ _ => skip_yields.bind fun _ _ =>
    directives_yields.discard.bind fun _ _ => (mark_yields _).bind fun _ _ =>
    (many_yields _ pair).bind fun _ _ => (mark_yields _).bind fun _ _ => ?_
  split
  · exact .pure trivial
  · exact .throw _ _

theorem directiveLocation_yields : Yields directiveLocation fun _ => True := by
  apply peek_yields.bind
  intro _ _
  split
  · split
    · exact skip_yields
    · exact refuse_yields _
  · exact refuse_yields _

theorem directivePlaces_yields : Yields directivePlaces fun _ => True := by
  have locations := (separated_yields '|' directiveLocation_yields).discard
  apply (optionalMark_yields _).bind
  intro _ _
  split
  · exact locations
  · apply peek_yields.bind
    intro _ _
    split
    · exact locations
    · exact .pure trivial

theorem directiveAfter_yields : Yields directiveAfter DeclarationNamed :=
  (mark_yields _).bind fun _ _ => name_yields.discard.bind fun _ _ =>
    argumentDefinitions_yields.discard.bind fun _ _ =>
    (optionalKeyword_yields _).discard.bind fun _ _ => (keyword_yields _).bind fun _ _ =>
    directivePlaces_yields.bind fun _ _ => .pure trivial

theorem declaration_yields : Yields declaration DeclarationNamed := by
  apply peek_yields.bind
  intro _ _
  split
  · exact rootBlock_yields
  · exact skip_yields.bind fun _ _ => extension_yields
  · refine description_yields.bind fun _ _ => peek_yields.bind fun _ _ => ?_
    split
    · exact skip_yields.bind fun _ _ => directiveAfter_yields
    · split
      · exact skip_yields.bind fun _ _ => (typeAfter_yields _).bind fun _ named => .pure named
      · exact refuse_yields _
    · exact refuse_yields _

end Grammar
end Schema

namespace TypeDefinition

theorem mem_fields_extended {type addition : TypeDefinition} {field : FieldDefinition}
    (member : field ∈ (type.extended addition).fields) :
    field ∈ type.fields ∨ field ∈ addition.fields := by
  unfold extended at member
  split at member <;> simp_all [fields]

theorem fields_bare (addition : TypeDefinition) : addition.bare.fields = [] := by
  unfold bare fields
  cases addition.content <;> rfl

theorem mem_fields_restricted {type : TypeDefinition} {keepField : FieldDefinition → Bool}
    {keepName : String → Bool} {field : FieldDefinition}
    (member : field ∈ (type.restricted keepField keepName).fields) : field ∈ type.fields := by
  obtain ⟨name, content, directives⟩ := type
  cases content with
  | object fields interfaces => exact (List.mem_filter.mp member).1
  | interface fields interfaces => exact (List.mem_filter.mp member).1
  | _ => exact member

theorem IsNamed.extended {type addition : TypeDefinition} (named : type.IsNamed)
    (added : addition.IsNamed) (same : type.name = addition.name) :
    (type.extended addition).IsNamed := by
  refine ⟨by simpa using named.name, ?_⟩
  intro field member
  rw [extended_name]
  rcases mem_fields_extended member with member | member
  · exact named.fields field member
  · exact same ▸ added.fields field member

theorem IsNamed.bare {addition : TypeDefinition} (added : addition.IsNamed) :
    addition.bare.IsNamed :=
  ⟨added.name, by simp [fields_bare]⟩

theorem IsNamed.restricted {type : TypeDefinition} (named : type.IsNamed)
    (keepField : FieldDefinition → Bool) (keepName : String → Bool) :
    (type.restricted keepField keepName).IsNamed :=
  ⟨named.name, fun field member => named.fields field (mem_fields_restricted member)⟩

theorem nodup_declare {types : List TypeDefinition} (distinct : (types.map (·.name)).Nodup)
    (type : TypeDefinition) : ((declare types type).map (·.name)).Nodup := by
  unfold declare
  split
  · exact distinct
  next absent =>
    rw [List.map_append, List.nodup_append]
    refine ⟨distinct, by simp, ?_⟩
    simp only [List.map_cons, List.map_nil, List.mem_singleton]
    rintro name member _ rfl rfl
    obtain ⟨other, inside, same⟩ := List.mem_map.mp member
    exact absent (List.any_eq_true.mpr ⟨other, inside, by simpa using same⟩)

/-- Named types with distinct names, before any are dropped. -/
structure AreDistinct (types : List TypeDefinition) : Prop where
  distinct : (types.map (·.name)).Nodup
  named : ∀ type ∈ types, type.IsNamed

theorem AreDistinct.declare {types : List TypeDefinition} (held : AreDistinct types)
    {type : TypeDefinition} (named : type.IsNamed) :
    AreDistinct (TypeDefinition.declare types type) := by
  refine ⟨nodup_declare held.distinct type, ?_⟩
  unfold TypeDefinition.declare
  split
  · exact held.named
  · intro other member
    rcases List.mem_append.mp member with member | member
    · exact held.named other member
    · exact List.mem_singleton.mp member ▸ named

theorem names_applyExtension (addition : TypeDefinition) (types : List TypeDefinition) :
    (addition.applyExtension types).map (·.name) =
      if addition.name ∈ types.map (·.name) then types.map (·.name)
      else types.map (·.name) ++ [addition.name] := by
  induction types with
  | nil => simp [applyExtension]
  | cons type rest ih =>
    by_cases here : type.name = addition.name
    · simp [applyExtension, here]
    · have apart : ¬addition.name = type.name := fun same => here same.symm
      simp only [applyExtension, here, if_false, List.map_cons, ih, List.mem_cons, apart, false_or]
      split <;> simp

theorem AreDistinct.applyExtension {types : List TypeDefinition} (held : AreDistinct types)
    {addition : TypeDefinition} (added : addition.IsNamed) :
    AreDistinct (addition.applyExtension types) := by
  refine ⟨?_, ?_⟩
  · rw [names_applyExtension]
    split
    · exact held.distinct
    next absent =>
      rw [List.nodup_append]
      refine ⟨held.distinct, by simp, ?_⟩
      rintro name member _ single rfl
      exact absent (List.mem_singleton.mp single ▸ member)
  · have named := held.named
    clear held
    induction types with
    | nil =>
      intro type member
      exact List.mem_singleton.mp member ▸ added.bare.extended added rfl
    | cons first rest ih =>
      intro type member
      unfold TypeDefinition.applyExtension at member
      split at member
      next same =>
        rcases List.mem_cons.mp member with rfl | member
        · exact (named first List.mem_cons_self).extended added same
        · exact named type (List.mem_cons_of_mem _ member)
      next =>
        rcases List.mem_cons.mp member with rfl | member
        · exact named _ List.mem_cons_self
        · exact ih (fun other inside => named other (List.mem_cons_of_mem _ inside)) type member

end TypeDefinition

namespace Schema

open TypeDefinition

theorem mergedTypes_areDistinct {declarations : List Declaration}
    (named : ∀ declaration ∈ declarations, Grammar.DeclarationNamed declaration) :
    AreDistinct (mergedTypes declarations) := by
  have fold (step : List TypeDefinition → TypeDefinition → List TypeDefinition)
      (each : ∀ types type, AreDistinct types → type.IsNamed → AreDistinct (step types type))
      (start additions : List TypeDefinition) (held : AreDistinct start)
      (all : ∀ type ∈ additions, type.IsNamed) : AreDistinct (additions.foldl step start) := by
    induction additions generalizing start with
    | nil => exact held
    | cons first rest ih =>
      exact ih _ (each start first held (all first List.mem_cons_self))
        fun type member => all type (List.mem_cons_of_mem _ member)
  have definitions : ∀ type ∈ definedTypes declarations, type.IsNamed := by
    intro type member
    obtain ⟨declaration, inside, is⟩ := List.mem_filterMap.mp member
    cases declaration with
    | type definition => exact Option.some.inj is ▸ named _ inside
    | _ => simp at is
  have additions : ∀ type ∈ extensions declarations, type.IsNamed := by
    intro type member
    obtain ⟨declaration, inside, is⟩ := List.mem_filterMap.mp member
    cases declaration with
    | extension addition => exact Option.some.inj is ▸ named _ inside
    | _ => simp at is
  refine fold _ (fun _ _ held added => held.applyExtension added) _ _ ?_ additions
  exact fold _ (fun _ _ held type => held.declare type) _ _
    ⟨List.nodup_nil, fun _ member => absurd member List.not_mem_nil⟩ definitions

theorem assemble_wellFormed {declarations : List Declaration}
    (named : ∀ declaration ∈ declarations, Grammar.DeclarationNamed declaration)
    (settings : Settings) : (assemble declarations settings).WellFormed := by
  have merged := mergedTypes_areDistinct named
  refine ⟨?_, ?_⟩
  · have kept : ((assemble declarations settings).types.map (·.name)).Sublist
        ((mergedTypes declarations).map (·.name)) := by
      simp only [assemble, keptTypes, List.map_map, Function.comp_def, restricted_name]
      exact List.filter_sublist.map _
    exact kept.nodup merged.distinct
  · intro type member
    obtain ⟨whole, inside, rfl⟩ := List.mem_map.mp member
    exact (merged.named whole (List.mem_filter.mp inside).1).restricted _ _

/-- A schema is assembled from all its documents. -/
theorem exists_documents {texts : List String} {settings : Settings} {schema : Schema}
    (read : ofDocuments texts settings = .ok schema) :
    ∃ documents, texts.mapM readDocument = .ok documents ∧
      schema = assemble documents.flatten settings := by
  unfold ofDocuments at read
  cases documents : texts.mapM readDocument with
  | error fault => simp [documents, bind, Except.bind] at read
  | ok declared =>
    rw [documents] at read
    exact ⟨declared, rfl, (Except.ok.inj read).symm⟩

/-- What documents declare about types is about named types. -/
theorem declared_named {texts : List String} {documents : List (List Declaration)}
    (declared : texts.mapM readDocument = .ok documents) :
    ∀ declaration ∈ documents.flatten, Grammar.DeclarationNamed declaration := by
  intro declaration member
  obtain ⟨document, inside, there⟩ := List.mem_flatten.mp member
  obtain ⟨text, -, ran⟩ := exists_left_of_forall₂ (forall₂_of_mapM_ok declared) inside
  unfold readDocument at ran
  split at ran
  next declarations ended =>
    obtain rfl := Except.ok.inj ran
    exact Document.Reading.document_yields Grammar.declaration_yields ended declaration there
  next => cases ran

/-- Every schema that documents give is well formed. -/
theorem wellFormed_of_ofDocuments {texts : List String} {settings : Settings} {schema : Schema}
    (read : ofDocuments texts settings = .ok schema) : schema.WellFormed := by
  obtain ⟨documents, declared, rfl⟩ := exists_documents read
  exact assemble_wellFormed (declared_named declared) settings

end Schema
end GraphQLProjections
