import GraphQLProjections.Proofs.Projection.Tree
import GraphQLProjections.Proofs.Schema.Merging
import GraphQLProjections.Proofs.Schema.Unions

/-! What the skip directive drops: the types that carry it once all extensions are added, the fields
that carry it or lead to a dropped type, and the members that are dropped types. All else stays as it
is declared. -/
namespace GraphQLProjections

namespace TypeDefinition

/-- Both are of one of the six kinds, so the directives of one extend those of the other. -/
def sameKind (type other : TypeDefinition) : Bool :=
  type.content.ctorIdx == other.content.ctorIdx

theorem directives_extended (type addition : TypeDefinition) :
    (type.extended addition).directives =
      type.directives ++ if addition.sameKind type then addition.directives else [] := by
  obtain ⟨name, content, directives⟩ := type
  obtain ⟨other, content', directives'⟩ := addition
  cases content <;> cases content' <;> simp [extended, sameKind, TypeContent.ctorIdx]

theorem sameKind_extended (other type addition : TypeDefinition) :
    other.sameKind (type.extended addition) = other.sameKind type := by
  obtain ⟨name, content, directives⟩ := type
  obtain ⟨name', content', directives'⟩ := addition
  cases content <;> cases content' <;> rfl

theorem directives_foldl_extended (type : TypeDefinition) (additions : List TypeDefinition) :
    (additions.foldl extended type).directives =
      type.directives ++ (additions.filter (·.sameKind type)).flatMap (·.directives) := by
  induction additions generalizing type with
  | nil => simp
  | cons addition rest ih =>
    rw [List.foldl_cons, ih, directives_extended, List.append_assoc]
    simp only [sameKind_extended]
    cases suits : addition.sameKind type <;> simp [suits]

/-- A kept type is as it was declared, without what is dropped of its fields and members. -/
structure KeptFrom (directive : String) (dropped : String → Bool) (whole kept : TypeDefinition) :
    Prop where
  name : kept.name = whole.name
  directives : kept.directives = whole.directives
  sameKind : kept.sameKind whole = true
  interfaces : kept.interfaces = whole.interfaces
  fields : kept.fields = whole.fields.filter fun field =>
    !carries field.directives directive && !dropped field.type.innermost
  members : kept.memberNames = whole.memberNames.filter fun name => !dropped name
  leaf : whole.isLeaf = true → kept = whole

theorem restricted_keptFrom (directive : String) (dropped : String → Bool) (type : TypeDefinition) :
    type.KeptFrom directive dropped (type.restricted
      (fun field => !carries field.directives directive && !dropped field.type.innermost)
      fun name => !dropped name) := by
  obtain ⟨name, content, directives⟩ := type
  refine ⟨rfl, rfl, ?_, ?_, fields_restricted _ _ _, ?_, ?_⟩ <;> cases content <;>
    simp [sameKind, TypeContent.ctorIdx, TypeDefinition.interfaces, memberNames, restricted, isLeaf]

end TypeDefinition

namespace Schema

open TypeDefinition

variable {declarations : List Declaration} {settings : Settings} {directive name : String}
  {schema : Schema} {dropped : String → Bool}

def Declares (declarations : List Declaration) (name : String) : Prop :=
  ∃ type ∈ definedTypes declarations ++ extensions declarations, type.name = name

theorem isSome_base? : (base? declarations name).isSome ↔ Declares declarations name := by
  simp [base?, named?, Declares, or_and_right, exists_or]

/-- The directives that documents declare for a name: those of its base, then those of the extensions
of its kind. -/
def declaredDirectives (declarations : List Declaration) (name : String) : List Directive :=
  match base? declarations name with
  | none => []
  | some base => base.directives ++
      ((extensions declarations).filter fun addition =>
        addition.name == name && addition.sameKind base).flatMap (·.directives)

theorem directives_of_merged {type : TypeDefinition}
    (merged : named? (mergedTypes declarations) name = some type) :
    type.directives = declaredDirectives declarations name := by
  rw [named?_mergedTypes] at merged
  obtain ⟨base, known, rfl⟩ := Option.map_eq_some_iff.mp merged
  rw [declaredDirectives, known, directives_foldl_extended, List.filter_filter]
  simp only [Bool.and_comm]

def drops (declarations : List Declaration) (directive name : String) : Bool :=
  carries (declaredDirectives declarations name) directive

/-- The types that are skipped are those for which the directive is declared. -/
theorem contains_skippedNames (distinct : ((mergedTypes declarations).map (·.name)).Nodup) :
    (skippedNames directive (mergedTypes declarations)).contains name =
      drops declarations directive name := by
  rw [Bool.eq_iff_iff, List.contains_iff_mem, skippedNames, drops]
  constructor
  · intro skipped
    obtain ⟨type, listed, rfl⟩ := List.mem_map.mp skipped
    obtain ⟨member, carried⟩ := List.mem_filter.mp listed
    have merged : named? (mergedTypes declarations) type.name = some type :=
      find?_eq_some_of_unique member (beq_self_eq_true _) fun other member' same =>
        List.inj_on_of_nodup_map distinct member' member (eq_of_beq same)
    rwa [← directives_of_merged merged]
  · intro carried
    cases merged : named? (mergedTypes declarations) name with
    | none =>
      rw [named?_mergedTypes, Option.map_eq_none_iff] at merged
      simp [declaredDirectives, merged, carries] at carried
    | some type =>
      rw [← directives_of_merged merged] at carried
      have named : type.name = name := eq_of_beq (List.find?_some merged :)
      exact List.mem_map.mpr ⟨type, List.mem_filter.mpr ⟨List.mem_of_find?_eq_some merged, carried⟩,
        named⟩

/-- A schema has exactly the merged types that are not dropped, in order and each without what is
dropped of it. -/
theorem types_assemble (distinct : ((mergedTypes declarations).map (·.name)).Nodup)
    (settings : Settings) :
    List.Forall₂ (KeptFrom settings.skipDirective (drops declarations settings.skipDirective))
      ((mergedTypes declarations).filter fun type =>
        !drops declarations settings.skipDirective type.name)
      (assemble declarations settings).types := by
  have keeps : keepsField settings.skipDirective
      (skippedNames settings.skipDirective (mergedTypes declarations)) = fun field =>
        !carries field.directives settings.skipDirective &&
          !drops declarations settings.skipDirective field.type.innermost := by
    funext field
    rw [keepsField, contains_skippedNames distinct]
  simp only [assemble, keptTypes, keeps, contains_skippedNames distinct]
  rw [List.forall₂_map_right_iff]
  exact List.forall₂_same.mpr fun type _ => restricted_keptFrom _ _ type

/-- Nothing in the schema refers to a dropped type. -/
structure Avoids (schema : Schema) (dropped : String → Bool) : Prop where
  types : ∀ type ∈ schema.types, dropped type.name = false
  fields : ∀ type ∈ schema.types, ∀ field ∈ type.fields, dropped field.type.innermost = false
  members : ∀ type ∈ schema.types, ∀ name ∈ type.memberNames, dropped name = false

theorem avoids_of_kept {types : List TypeDefinition}
    (kept : List.Forall₂ (KeptFrom directive dropped)
      (types.filter fun type => !dropped type.name) schema.types) : schema.Avoids dropped := by
  have each {good : TypeDefinition → Prop} (holds : ∀ whole kept : TypeDefinition,
      dropped whole.name = false → whole.KeptFrom directive dropped kept → good kept) :
      ∀ type ∈ schema.types, good type := by
    intro type member
    obtain ⟨whole, listed, from'⟩ := exists_left_of_forall₂ kept member
    have stays := (List.mem_filter.mp listed).2
    exact holds whole type (by simpa using stays) from'
  refine ⟨each ?_, each ?_, each ?_⟩
  · intro whole kept stays from'
    rwa [from'.name]
  · intro whole kept _ from' field declared
    rw [from'.fields] at declared
    have stays := (Bool.and_eq_true _ _ ▸ (List.mem_filter.mp declared).2).2
    simpa using stays
  · intro whole kept _ from' name listed
    rw [from'.members] at listed
    simpa using (List.mem_filter.mp listed).2

theorem isSome_type?_assemble (distinct : ((mergedTypes declarations).map (·.name)).Nodup)
    (declared : Declares declarations name)
    (stays : drops declarations settings.skipDirective name = false) :
    ((assemble declarations settings).type? name).isSome := by
  obtain ⟨base, known⟩ := Option.isSome_iff_exists.mp (isSome_base?.mpr declared)
  obtain ⟨type, merged⟩ : ∃ type, named? (mergedTypes declarations) name = some type :=
    ⟨_, by rw [named?_mergedTypes, known]; rfl⟩
  have named : type.name = name := eq_of_beq (List.find?_some merged :)
  have listed : type ∈ (mergedTypes declarations).filter fun type =>
      !drops declarations settings.skipDirective type.name :=
    List.mem_filter.mpr ⟨List.mem_of_find?_eq_some merged, by simp [named, stays]⟩
  obtain ⟨kept, member, from'⟩ :=
    exists_right_of_forall₂ (types_assemble distinct settings) listed
  exact List.find?_isSome.mpr ⟨kept, member, beq_iff_eq.mpr (from'.name.trans named)⟩

/-- The type of a field that leads nowhere is not declared. -/
theorem not_declares_of_target (distinct : ((mergedTypes declarations).map (·.name)).Nodup)
    {type : TypeDefinition} (known : type ∈ (assemble declarations settings).types)
    {field : FieldDefinition} (declared : field ∈ type.fields) {fault : Error}
    (unresolved : (assemble declarations settings).target field = .error fault) :
    ¬Declares declarations field.type.innermost := by
  intro declares
  have stays := (avoids_of_kept (types_assemble distinct settings)).fields type known field declared
  obtain ⟨found, present⟩ :=
    Option.isSome_iff_exists.mp (isSome_type?_assemble distinct declares stays)
  simp only [target, present] at unresolved
  split at unresolved <;> cases unresolved

end Schema
end GraphQLProjections
