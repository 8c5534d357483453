import GraphQLProjections.Schema.Basic

/-! Tables of the names that a client refers to when it writes queries by hand. -/
namespace GraphQLProjections

/-- The names a type declares, and the argument names of the fields that take arguments. -/
structure ConstantTable where
  type : String
  fields : List String
  arguments : Entries (List String)
  deriving DecidableEq, Repr, Inhabited

/-- The names of fields, input fields, members or values; a scalar declares none. -/
def TypeContent.names? : TypeContent → Option (List String)
  | .object fields _ | .interface fields _ => some (fields.map (·.name))
  | .input fields => some (fields.map (·.name))
  | .union members => some members
  | .enum values => some values
  | .scalar => none

namespace ConstantTable

def argumentNames (type : TypeDefinition) : Entries (List String) :=
  .ofPairs <| (type.fields.filter fun field => !field.arguments.isEmpty).map fun field =>
    (field.name, field.arguments.map (·.name))

def ofType? (type : TypeDefinition) : Option ConstantTable :=
  type.content.names?.map fun names => ⟨type.name, names, argumentNames type⟩

/-- One table for each type but scalars, in order of declaration. -/
def ofSchema (schema : Schema) : List ConstantTable := schema.types.filterMap ofType?

end ConstantTable
end GraphQLProjections
