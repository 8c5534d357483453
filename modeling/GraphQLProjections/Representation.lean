import GraphQLProjections.KeyTree
import GraphQLProjections.NameSupply
import GraphQLProjections.Schema.Basic

/-! Representations of entities: flat records of the type name and the key fields. A composite key
field refers to the representation of its type. A type has at most one representation in a run:
the first key it is needed for decides its fields. -/
namespace GraphQLProjections

inductive RepresentationFieldKind where
  /-- The type name, fixed to one value. -/
  | typeName (value : String)
  | scalar
  | composite (representation : String)
  deriving DecidableEq, Repr, Inhabited

structure RepresentationField where
  name : String
  type : TypeRef
  kind : RepresentationFieldKind
  deriving DecidableEq, Repr, Inhabited

structure Representation where
  name : String
  type : String
  fields : List RepresentationField
  deriving DecidableEq, Repr, Inhabited

namespace Representation

def fieldNames (representation : Representation) : List String :=
  representation.fields.map (·.name)

def field? (representation : Representation) (name : String) : Option RepresentationField :=
  representation.fields.find? (·.name == name)

def typeNameField (type : String) : RepresentationField :=
  ⟨"__typename", .nonNull (.named "String"), .typeName type⟩

end Representation

/-- Representations in order of discovery, and the names they share with the rest of a run. -/
structure Catalogue where
  names : NameSupply
  representations : Array Representation
  deriving Repr, Inhabited

/-- Steps that may fail; a failed step leaves what it has entered. -/
abbrev Cataloguing := ExceptT Error (StateM Catalogue)

namespace Cataloguing

def outcome (step : Cataloguing α) (catalogue : Catalogue) : Except Error α × Catalogue :=
  (step.run).run catalogue

def ofExcept (result : Except Error α) : Cataloguing α := ExceptT.mk (pure result)

/-- Name the representation of a type; the flag tells whether it is yet to be built. -/
def claim (type : TypeDefinition) : Cataloguing (String × Bool) := do
  let catalogue ← get
  let (claimed, names) := catalogue.names.claim [type.name] NameSupply.representationSuffix
  set { catalogue with names := names }
  return claimed

/-- Enter a representation whose fields are yet to come. -/
def enter (name : String) (type : TypeDefinition) : Cataloguing Nat := do
  let catalogue ← get
  set { catalogue with representations := catalogue.representations.push ⟨name, type.name, []⟩ }
  return catalogue.representations.size

def complete (index : Nat) (representation : Representation) : Cataloguing Unit :=
  modify fun catalogue =>
    { catalogue with
      representations := catalogue.representations.setIfInBounds index representation }

mutual
/-- The name of the representation of a type, built from a key if there is none yet. -/
def represent (schema : Schema) (type : TypeDefinition) : KeyTree → Cataloguing String
  | .mk selected => do
    let (name, isNew) ← claim type
    if isNew then
      let index ← enter name type
      let fields ← representFields schema type selected
      complete index ⟨name, type.name, Representation.typeNameField type.name :: fields⟩
    return name

/-- The fields of a key that the type declares. A group under a field that leads to no object is
dropped, and so is a name the type does not declare. -/
def representFields (schema : Schema) (type : TypeDefinition) :
    List (String × Option KeyTree) → Cataloguing (List RepresentationField)
  | [] => pure []
  | (name, none) :: rest => do
    match type.fields.find? (·.name == name) with
    | none => representFields schema type rest
    | some field =>
      discard <| ofExcept (schema.target field)
      let fields ← representFields schema type rest
      return ⟨field.name, field.type, .scalar⟩ :: fields
  | (name, some group) :: rest => do
    match type.fields.find? (·.name == name) with
    | none => representFields schema type rest
    | some field =>
      match ← ofExcept (schema.target field) with
      | .leaf =>
        let fields ← representFields schema type rest
        return ⟨field.name, field.type, .scalar⟩ :: fields
      | .composite nested =>
        if nested.isObject then
          let representation ← represent schema nested group
          let fields ← representFields schema type rest
          return ⟨field.name, field.type, .composite representation⟩ :: fields
        else
          let fields ← representFields schema type rest
          return ⟨field.name, field.type, .scalar⟩ :: fields
end

/-- The texts of the keys of an entity; a key without text counts for nothing. -/
def keyTexts (entity : TypeDefinition) : List String :=
  (entity.directives.filter (·.name == "key")).filterMap (·.stringArgument? "fields")

def representEntity (schema : Schema) (entity : TypeDefinition) : Cataloguing (Option String) := do
  let keys ← ofExcept ((keyTexts entity).mapM (KeyTree.parse entity.name))
  if keys.isEmpty then return none
  else return some (← represent schema entity (KeyTree.merged keys))

def representAll (schema : Schema) : List TypeDefinition → Cataloguing Unit
  | [] => pure ()
  | entity :: rest => do
    discard <| representEntity schema entity
    representAll schema rest

end Cataloguing
end GraphQLProjections
