import GraphQLProjections.Document.Reading
import GraphQLProjections.Schema.Definition

/-! The grammar of schema documents. An extension has the form of a type definition but must add
something; a `schema` block may name each of the three root operations once. -/
namespace GraphQLProjections.Schema

open GraphQLProjections.Document

structure RootNames where
  query : Option String
  mutation : Option String
  subscription : Option String
  deriving DecidableEq, Repr, Inhabited

inductive Declaration where
  | type (definition : TypeDefinition)
  | extension (addition : TypeDefinition)
  | roots (names : RootNames)
  | directive
  deriving Repr, Inhabited

/-- Set one root; a repeated or unknown operation has no place. -/
def RootNames.set? (roots : RootNames) (operation type : String) : Option RootNames :=
  match operation with
  | "query" => if roots.query.isNone then some { roots with query := some type } else none
  | "mutation" => if roots.mutation.isNone then some { roots with mutation := some type } else none
  | "subscription" =>
    if roots.subscription.isNone then some { roots with subscription := some type } else none
  | _ => none

namespace Grammar

open Reading

def description : Reading Unit := do
  match ← peek with
  | .string _ => skip
  | _ => pure ()

def startsDescribed : Lexeme → Bool
  | .string _ | .name _ => true
  | _ => false

def directives : Reading (List Directive) :=
  many (· == .mark '@') do
    skip
    let directive ← name
    return ⟨directive, .ofPairs (← callArguments)⟩

def inputValue : Reading ArgumentDefinition := do
  description
  let argument ← name
  mark ':'
  let type ← typeRef
  let defaultValue ← if ← optionalMark '=' then some <$> constantLiteral else pure none
  discard directives
  return ⟨argument, type, defaultValue⟩

def argumentDefinitions : Reading (List ArgumentDefinition) :=
  optionalGroup '(' ')' startsDescribed inputValue

def field (owner : String) : Reading FieldDefinition := do
  description
  let fieldName ← name
  let arguments ← argumentDefinitions
  mark ':'
  let type ← typeRef
  return ⟨fieldName, owner, type, arguments, ← directives⟩

def fields (owner : String) : Reading (List FieldDefinition) :=
  optionalGroup '\x7b' '\x7d' startsDescribed (field owner)

def interfaces : Reading (List String) := do
  if ← optionalKeyword "implements" then
    discard (optionalMark '&')
    separated '&' name
  else pure []

def members : Reading (List String) := do
  if ← optionalMark '=' then
    discard (optionalMark '|')
    separated '|' name
  else pure []

def enumValue : Reading String := do
  description
  let value ← name
  discard directives
  return value

def typeAfter (keyword : String) : Reading TypeDefinition := do
  match keyword with
  | "scalar" =>
    let typeName ← name
    return ⟨typeName, .scalar, ← directives⟩
  | "type" =>
    let typeName ← name
    let implemented ← interfaces
    let applied ← directives
    return ⟨typeName, .object (← fields typeName) implemented, applied⟩
  | "interface" =>
    let typeName ← name
    let implemented ← interfaces
    let applied ← directives
    return ⟨typeName, .interface (← fields typeName) implemented, applied⟩
  | "union" =>
    let typeName ← name
    let applied ← directives
    return ⟨typeName, .union (← members), applied⟩
  | "enum" =>
    let typeName ← name
    let applied ← directives
    let values ← optionalGroup '\x7b' '\x7d' startsDescribed enumValue
    return ⟨typeName, .enum values, applied⟩
  | "input" =>
    let typeName ← name
    let applied ← directives
    let values ← optionalGroup '\x7b' '\x7d' startsDescribed inputValue
    return ⟨typeName, .input values, applied⟩
  | _ => refuse

def typeKeywords : List String := ["scalar", "type", "interface", "union", "enum", "input"]

/-- An addition without content adds nothing. Interfaces count for an object type only. -/
def addsNothing (addition : TypeDefinition) : Bool :=
  addition.directives.isEmpty &&
    match addition.content with
    | .object fields interfaces => fields.isEmpty && interfaces.isEmpty
    | .interface fields _ => fields.isEmpty
    | .union members => members.isEmpty
    | .enum values => values.isEmpty
    | .scalar => true
    | .input fields => fields.isEmpty

/-- An extension that adds nothing is refused at its kind. -/
def extension : Reading Declaration := do
  let kind ← token
  match kind.lexeme with
  | .name keyword =>
    if keyword ∈ typeKeywords then
      skip
      let addition ← typeAfter keyword
      if addsNothing addition then throw kind.position
      return .extension addition
    else refuse
  | _ => refuse

/-- A `schema` block is refused at its keyword if its operations do not fit. -/
def rootBlock : Reading Declaration := do
  let start ← token
  skip
  discard directives
  mark '\x7b'
  let operations ← many startsName do
    let operation ← name
    mark ':'
    let type ← name
    pure (operation, type)
  mark '\x7d'
  match operations.foldlM (fun roots entry => RootNames.set? roots entry.1 entry.2)
      ⟨none, none, none⟩ with
  | some roots => return .roots roots
  | none => throw start.position

def directiveLocations : List String :=
  ["QUERY", "MUTATION", "SUBSCRIPTION", "FIELD", "FRAGMENT_DEFINITION", "FRAGMENT_SPREAD",
   "INLINE_FRAGMENT", "VARIABLE_DEFINITION", "SCHEMA", "SCALAR", "OBJECT", "FIELD_DEFINITION",
   "ARGUMENT_DEFINITION", "INTERFACE", "UNION", "ENUM", "ENUM_VALUE", "INPUT_OBJECT",
   "INPUT_FIELD_DEFINITION"]

def directiveLocation : Reading Unit := do
  match ← peek with
  | .name text => if text ∈ directiveLocations then skip else refuse
  | _ => refuse

/-- The places where a directive may stand. There may be none, but a bar is followed by one, and
a name in their stead is refused. -/
def directivePlaces : Reading Unit := do
  if ← optionalMark '|' then
    discard (separated '|' directiveLocation)
  else
    match ← peek with
    | .name _ => discard (separated '|' directiveLocation)
    | _ => pure ()

/-- The part of a directive definition after its keyword; directives need no further account. -/
def directiveAfter : Reading Declaration := do
  mark '@'
  discard name
  discard argumentDefinitions
  discard (optionalKeyword "repeatable")
  keyword "on"
  directivePlaces
  return .directive

def declaration : Reading Declaration := do
  match ← peek with
  | .name "schema" => rootBlock
  | .name "extend" => skip; extension
  | _ =>
    description
    match ← peek with
    | .name "directive" => skip; directiveAfter
    | .name keyword =>
      if keyword ∈ typeKeywords then
        skip
        return .type (← typeAfter keyword)
      else refuse
    | _ => refuse

end Grammar

def Declaration.read (text : String) : Except Position (List Declaration) :=
  Reading.document Grammar.declaration text

end GraphQLProjections.Schema
