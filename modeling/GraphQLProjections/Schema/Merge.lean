import GraphQLProjections.Schema.Definition

/-! Merging of type definitions. The first definition of a name stands; extensions are added to it
in the order in which they come, whatever lies between them. -/
namespace GraphQLProjections

def joinNames (names extra : List String) : List String :=
  extra.foldl (fun known name => if name ∈ known then known else known ++ [name]) names

namespace TypeDefinition

/-- A type with what an extension adds; an extension of another kind adds nothing. -/
def extended (type addition : TypeDefinition) : TypeDefinition :=
  match type.content, addition.content with
  | .object fields interfaces, .object moreFields moreInterfaces =>
    { type with
      content := .object (fields ++ moreFields) (joinNames interfaces moreInterfaces)
      directives := type.directives ++ addition.directives }
  | .interface fields interfaces, .interface moreFields moreInterfaces =>
    { type with
      content := .interface (fields ++ moreFields) (joinNames interfaces moreInterfaces)
      directives := type.directives ++ addition.directives }
  | .union members, .union moreMembers =>
    { type with
      content := .union (joinNames members moreMembers)
      directives := type.directives ++ addition.directives }
  | .enum values, .enum moreValues =>
    { type with
      content := .enum (values ++ moreValues)
      directives := type.directives ++ addition.directives }
  | .input fields, .input moreFields =>
    { type with
      content := .input (fields ++ moreFields)
      directives := type.directives ++ addition.directives }
  | .scalar, .scalar => { type with directives := type.directives ++ addition.directives }
  | _, _ => type

/-- The kind of an extension with nothing in it: the base of an extension without one. -/
def bare (addition : TypeDefinition) : TypeDefinition :=
  { addition with
    content := match addition.content with
      | .object .. => .object [] []
      | .interface .. => .interface [] []
      | .union _ => .union []
      | .enum _ => .enum []
      | .scalar => .scalar
      | .input _ => .input []
    directives := [] }

def declare (types : List TypeDefinition) (type : TypeDefinition) : List TypeDefinition :=
  if types.any (·.name == type.name) then types else types ++ [type]

/-- Extend the type of the extension's name, or add it as a new type at the end. -/
def applyExtension (addition : TypeDefinition) : List TypeDefinition → List TypeDefinition
  | [] => [addition.bare.extended addition]
  | type :: rest =>
    if type.name = addition.name then type.extended addition :: rest
    else type :: applyExtension addition rest

def restricted (type : TypeDefinition) (keepField : FieldDefinition → Bool)
    (keepName : String → Bool) : TypeDefinition :=
  { type with
    content := match type.content with
      | .object fields interfaces => .object (fields.filter keepField) interfaces
      | .interface fields interfaces => .interface (fields.filter keepField) interfaces
      | .union members => .union (members.filter keepName)
      | content => content }

@[simp] theorem restricted_name (type : TypeDefinition) (keepField : FieldDefinition → Bool)
    (keepName : String → Bool) : (type.restricted keepField keepName).name = type.name := rfl

@[simp] theorem extended_name (type addition : TypeDefinition) :
    (type.extended addition).name = type.name := by
  unfold extended
  split <;> rfl

@[simp] theorem bare_name (addition : TypeDefinition) : addition.bare.name = addition.name := rfl

end TypeDefinition
end GraphQLProjections
