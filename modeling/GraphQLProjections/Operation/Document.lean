import GraphQLProjections.Document.Reading
import GraphQLProjections.Schema.Basic

/-! Executable documents, as far as they tell what is selected: operations and named fragments
with their selections. Aliases, arguments, variables and directives are read and dropped. -/
namespace GraphQLProjections

inductive Selection where
  | field (name : String) (selections : List Selection)
  | inlineFragment (type : Option String) (selections : List Selection)
  | spread (fragment : String)
  deriving Repr, Inhabited

structure NamedFragment where
  name : String
  type : String
  selections : List Selection
  deriving Repr, Inhabited

structure Operation where
  kind : OperationKind
  selections : List Selection
  deriving Repr, Inhabited

inductive ExecutableDefinition where
  | operation (operation : Operation)
  | fragment (fragment : NamedFragment)
  deriving Repr, Inhabited

namespace ExecutableGrammar

open GraphQLProjections.Document
open GraphQLProjections.Document.Reading

def directives : Reading Unit :=
  discard <| many (· == .mark '@') do
    skip
    discard name
    discard callArguments

def startsSelection : Lexeme → Bool
  | .spread | .name _ => true
  | _ => false

/-- A selection, by a reader of selections in braces. What follows a spread mark and is no fragment
name is an inline fragment. -/
def selectionBy (nested : Reading (List Selection)) : Reading Selection := do
  match ← peek with
  | .spread =>
    skip
    match ← peek with
    | .name "on" =>
      skip
      let type ← name
      directives
      return .inlineFragment (some type) (← nested)
    | .name fragment =>
      skip
      directives
      return .spread fragment
    | _ =>
      directives
      return .inlineFragment none (← nested)
  | _ =>
    let first ← name
    let field ← if ← optionalMark ':' then name else pure first
    discard callArguments
    directives
    if (← peek) = .mark '\x7b' then return .field field (← nested)
    else return .field field []

def selectionsWithin : Nat → Reading (List Selection)
  | 0 => refuse
  | depth + 1 => do
    mark '\x7b'
    let items ← many1 startsSelection (selectionBy (selectionsWithin depth))
    mark '\x7d'
    pure items

def selections : Reading (List Selection) := selectionsWithin (nestingLimit + 1)

def startsVariable : Lexeme → Bool := (· == .mark '$')

def variableDefinition : Reading Unit := do
  mark '$'
  discard name
  mark ':'
  discard typeRef
  if ← optionalMark '=' then discard constantLiteral

def operationAfter (kind : OperationKind) : Reading ExecutableDefinition := do
  if startsName (← peek) then skip
  discard (optionalGroup '(' ')' startsVariable variableDefinition)
  directives
  return .operation ⟨kind, ← selections⟩

def definition : Reading ExecutableDefinition := do
  match ← peek with
  | .mark '\x7b' => return .operation ⟨.query, ← selections⟩
  | .name "query" => skip; operationAfter .query
  | .name "mutation" => skip; operationAfter .mutation
  | .name "subscription" => skip; operationAfter .subscription
  | .name "fragment" =>
    skip
    let fragment ← name
    keyword "on"
    let type ← name
    directives
    return .fragment ⟨fragment, type, ← selections⟩
  | _ => refuse

end ExecutableGrammar

def ExecutableDefinition.read (text : String) :
    Except Document.Position (List ExecutableDefinition) :=
  Document.Reading.document ExecutableGrammar.definition text

end GraphQLProjections
