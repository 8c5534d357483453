import GraphQLProjections.Schema.Basic

/-! What merging makes of the fields that documents declare. The fields of a type are those of its
definition, then those of its extensions in the order in which they come, without what the skip
directive drops. -/
namespace GraphQLProjections

namespace TypeDefinition

/-- An extension adds its fields to a type of its own kind only. -/
def fits (addition type : TypeDefinition) : Bool :=
  addition.isObject == type.isObject && addition.isInterface == type.isInterface

theorem fields_extended (type addition : TypeDefinition) : (type.extended addition).fields =
    type.fields ++ if addition.fits type then addition.fields else [] := by
  obtain ⟨name, content, directives⟩ := type
  obtain ⟨other, content', directives'⟩ := addition
  cases content <;> cases content' <;>
    simp [extended, fits, fields, isObject, isInterface]

theorem fits_extended (other type addition : TypeDefinition) :
    other.fits (type.extended addition) = other.fits type := by
  obtain ⟨name, content, directives⟩ := type
  obtain ⟨name', content', directives'⟩ := addition
  cases content <;> cases content' <;> simp [extended, fits, isObject, isInterface]

theorem fields_foldl_extended (type : TypeDefinition) (additions : List TypeDefinition) :
    (additions.foldl extended type).fields =
      type.fields ++ (additions.filter (·.fits type)).flatMap fields := by
  induction additions generalizing type with
  | nil => simp
  | cons addition rest ih =>
    rw [List.foldl_cons, ih, fields_extended, List.append_assoc]
    simp only [fits_extended]
    cases suits : addition.fits type <;> simp [suits]

theorem fields_restricted (type : TypeDefinition) (keepField : FieldDefinition → Bool)
    (keepName : String → Bool) :
    (type.restricted keepField keepName).fields = type.fields.filter keepField := by
  obtain ⟨name, content, directives⟩ := type
  cases content <;> rfl

def named? (types : List TypeDefinition) (name : String) : Option TypeDefinition :=
  types.find? (·.name == name)

theorem named?_declare (types : List TypeDefinition) (type : TypeDefinition) (name : String) :
    named? (declare types type) name =
      (named? types name).or (if type.name = name then some type else none) := by
  unfold declare named?
  split
  next taken =>
    by_cases same : type.name = name
    · obtain ⟨other, member, alike⟩ := List.any_eq_true.mp taken
      have found : (types.find? (·.name == name)).isSome :=
        List.find?_isSome.mpr ⟨other, member, same ▸ alike⟩
      rw [Option.or_of_isSome found]
    · simp [same]
  next =>
    rw [List.find?_append]
    by_cases same : type.name = name <;> simp [same]

/-- The first definition of a name stands. -/
theorem named?_foldl_declare (definitions types : List TypeDefinition) (name : String) :
    named? (definitions.foldl declare types) name =
      (named? types name).or (named? definitions name) := by
  induction definitions generalizing types with
  | nil => simp [named?]
  | cons definition rest ih =>
    rw [List.foldl_cons, ih, named?_declare, Option.or_assoc]
    by_cases same : definition.name = name <;> simp [named?, same]

theorem named?_applyExtension (addition : TypeDefinition) (types : List TypeDefinition)
    (name : String) : named? (addition.applyExtension types) name =
      if addition.name = name then
        some (((named? types name).getD addition.bare).extended addition)
      else named? types name := by
  unfold named?
  induction types with
  | nil => by_cases same : addition.name = name <;> simp [applyExtension, same]
  | cons type rest ih =>
    unfold applyExtension
    split
    next here => by_cases same : addition.name = name <;> simp [here, same]
    next here =>
      by_cases other : type.name = name
      · have same : ¬addition.name = name := fun same => here (other.trans same.symm)
        simp [other, same]
      · simp [other, ih]

/-- A type takes the extensions of its name in order; without a definition the first extension makes
one. -/
theorem named?_foldl_applyExtension (additions types : List TypeDefinition) (name : String) :
    named? (additions.foldl (fun types addition => addition.applyExtension types) types) name =
      ((named? types name).or ((named? additions name).map bare)).map fun base =>
        (additions.filter (·.name == name)).foldl extended base := by
  induction additions generalizing types with
  | nil => simp [named?]
  | cons addition rest ih =>
    rw [List.foldl_cons, ih, named?_applyExtension]
    by_cases same : addition.name = name
    · cases base : named? types name <;> simp [named?, same]
    · simp [named?, same]

end TypeDefinition

namespace Schema

open TypeDefinition

/-- What the extensions of a name are added to: its first definition, or else the kind of its first
extension with nothing in it. -/
def base? (declarations : List Declaration) (name : String) : Option TypeDefinition :=
  (named? (definedTypes declarations) name).or ((named? (extensions declarations) name).map bare)

/-- The fields that documents declare for a name: those of its base, then those of the extensions of
its kind. -/
def declaredFields (declarations : List Declaration) (name : String) : List FieldDefinition :=
  match base? declarations name with
  | none => []
  | some base => base.fields ++
      ((extensions declarations).filter fun addition =>
        addition.name == name && addition.fits base).flatMap fields

/-- The merged type of a name is its base with all extensions of the name added in order. -/
theorem named?_mergedTypes (declarations : List Declaration) (name : String) :
    named? (mergedTypes declarations) name = (base? declarations name).map fun base =>
      ((extensions declarations).filter (·.name == name)).foldl extended base := by
  unfold mergedTypes
  rw [named?_foldl_applyExtension, named?_foldl_declare]
  rfl

theorem fields_of_merged {declarations : List Declaration} {name : String} {type : TypeDefinition}
    (merged : named? (mergedTypes declarations) name = some type) :
    type.fields = declaredFields declarations name := by
  rw [named?_mergedTypes] at merged
  obtain ⟨base, known, rfl⟩ := Option.map_eq_some_iff.mp merged
  rw [declaredFields, known, fields_foldl_extended, List.filter_filter]
  simp only [Bool.and_comm]

/-- The fields of a type of a schema are those declared, but for the skipped ones. -/
theorem fields_of_assemble {declarations : List Declaration} {settings : Settings} {name : String}
    {type : TypeDefinition} (found : (assemble declarations settings).type? name = some type) :
    type.fields = (declaredFields declarations name).filter
      (keepsField settings.skipDirective (assemble declarations settings).skipped) := by
  have kept : ((keptTypes settings.skipDirective (mergedTypes declarations)).find?
      (·.name == name)) = some type := found
  unfold keptTypes at kept
  rw [List.find?_map] at kept
  obtain ⟨whole, first, rfl⟩ := Option.map_eq_some_iff.mp kept
  rw [List.find?_filter] at first
  -- Whether a type is skipped depends on its name only.
  obtain ⟨stays, rfl⟩ : whole.name ∉ skippedNames settings.skipDirective
      (mergedTypes declarations) ∧ whole.name = name := by
    simpa using List.find?_some first
  have merged : named? (mergedTypes declarations) whole.name = some whole := by
    rw [← first]
    unfold named?
    congr 1
    funext type
    by_cases same : type.name = whole.name <;> simp [same, stays]
  rw [fields_restricted, fields_of_merged merged]
  rfl

end Schema
end GraphQLProjections
