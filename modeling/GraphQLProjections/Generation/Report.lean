import GraphQLProjections.Generation

/-! The output of a run as JSON. Members that hold nothing are left out. -/
namespace GraphQLProjections

def ArgumentDefinition.json (argument : ArgumentDefinition) : Json :=
  .object <| [("name", .string argument.name), ("type_ref", .string argument.type.text)] ++
    Json.memberIfSome "default_value" (fun literal => .string literal.text) argument.defaultValue

def argumentsJson (arguments : List ArgumentDefinition) : Json :=
  .array (arguments.map ArgumentDefinition.json)

def OperationDescriptor.json (operation : OperationDescriptor) : Json :=
  .object <| [("name", .string operation.name), ("operation", .string operation.kind.text),
    ("field_name", .string operation.field)] ++
    Json.memberUnlessEmpty "arguments" argumentsJson operation.arguments ++
    Json.memberIfSome "projection_root" .string operation.projectionRoot

def NodeId.json (id : NodeId) : Json := .integer id

def ProjectionKind.text : ProjectionKind → String
  | .root => "root"
  | .sub => "sub"
  | .fragment => "fragment"
  | .argumentWrapper => "argument_wrapper"

def SelectionVariant.text : SelectionVariant → String
  | .plain => "plain"
  | .withArguments => "with_arguments"
  | .withVariableReferences => "with_variable_references"

def SelectionMethod.json (method : SelectionMethod) : Json :=
  .object <| [("field_name", .string method.field.name),
    ("field_type", .string method.field.type.text)] ++
    Json.memberIfSome "target" (fun link => NodeId.json link.target) method.link ++
    Json.memberIfSome "target_name" (fun link => .string link.name) method.link ++
    Json.memberUnlessEmpty "arguments" argumentsJson method.field.arguments ++
    [("variants", Json.strings (method.variants.map SelectionVariant.text))] ++
    Json.memberIfSome "deprecation" .string method.field.deprecation?

def FragmentAccessor.json (accessor : FragmentAccessor) : Json :=
  .object [("type_name", .string accessor.type), ("method_name", .string accessor.methodName),
    ("target", NodeId.json accessor.link.target), ("target_name", .string accessor.link.name)]

def ProjectionNode.json (node : ProjectionNode) : Json :=
  .object <| [("id", NodeId.json node.id), ("name", .string node.name),
    ("kind", .string node.kind.text), ("type_name", .string node.type)] ++
    Json.memberIfSome "parent" NodeId.json node.parent ++
    [("root", NodeId.json node.root), ("depth", .integer node.depth),
     ("path", Json.strings node.path),
     ("methods", .array (node.methods.map SelectionMethod.json))] ++
    Json.memberUnlessEmpty "fragments"
      (fun fragments => .array (fragments.map FragmentAccessor.json))
      node.fragments ++
    if node.truncated then [("truncated", .bool true)] else []

def RepresentationFieldKind.members : RepresentationFieldKind → List (String × Json)
  | .typeName value => [("kind", .string "type_name"), ("value", .string value)]
  | .scalar => [("kind", .string "scalar")]
  | .composite representation =>
    [("kind", .string "composite"), ("representation", .string representation)]

def RepresentationField.json (field : RepresentationField) : Json :=
  .object <| [("name", .string field.name), ("type_ref", .string field.type.text)] ++
    field.kind.members

def Representation.json (representation : Representation) : Json :=
  .object [("name", .string representation.name), ("type_name", .string representation.type),
    ("fields", .array (representation.fields.map RepresentationField.json))]

def ConstantTable.json (table : ConstantTable) : Json :=
  .object <| [("type_name", .string table.type), ("fields", Json.strings table.fields)] ++
    Json.memberUnlessEmpty "arguments"
      (fun arguments => .object (arguments.map fun entry => (entry.1, Json.strings entry.2)))
      table.arguments

def Output.json (output : Output) : Json :=
  .object [("operations", .array (output.operations.map OperationDescriptor.json)),
    ("projections", .array (output.projections.map ProjectionNode.json)),
    ("representations", .array (output.representations.map Representation.json)),
    ("constants", .array (output.constants.map ConstantTable.json))]

end GraphQLProjections
