import GraphQLProjections.Json.Value

/-! Values as written in GraphQL documents: arguments of directives and fields, and default
values. A literal is shown again as GraphQL text, or turned into JSON. -/
namespace GraphQLProjections

inductive Literal where
  | reference (name : String)
  | integer (value : Int)
  | float (value : Binary64)
  | string (value : String)
  | boolean (value : Bool)
  | null
  | enumValue (name : String)
  | list (items : List Literal)
  | object (fields : List (String × Literal))
  deriving Repr, Inhabited

namespace Literal

mutual
def text : Literal → String
  | reference name => "$" ++ name
  | integer value => toString value
  | float value => Decimal.text Decimal.literalNotation value
  | string value => Text.dataQuoted value
  | boolean value => if value then "true" else "false"
  | null => "null"
  | enumValue name => name
  | list items => "[" ++ ", ".intercalate (itemTexts items) ++ "]"
  | object fields => "\x7b" ++ ", ".intercalate (fieldTexts fields) ++ "\x7d"

def itemTexts : List Literal → List String
  | [] => []
  | item :: rest => text item :: itemTexts rest

def fieldTexts : List (String × Literal) → List String
  | [] => []
  | (name, value) :: rest => (name ++ ": " ++ text value) :: fieldTexts rest
end

mutual
/-- Enum values become strings, and a variable the string of its name after a dollar sign. -/
def json : Literal → Json
  | reference name => .string ("$" ++ name)
  | integer value => .integer value
  | float value => if value.isInfinite then .null else .float value
  | string value => .string value
  | boolean value => .bool value
  | null => .null
  | enumValue name => .string name
  | list items => .array (itemsJson items)
  | object fields => .object (fieldsJson fields)

def itemsJson : List Literal → List Json
  | [] => []
  | item :: rest => json item :: itemsJson rest

def fieldsJson : List (String × Literal) → List (String × Json)
  | [] => []
  | (name, value) :: rest => (name, json value) :: fieldsJson rest
end

/-- The text of a literal whose JSON form is a string. -/
def string? : Literal → Option String
  | reference name => some ("$" ++ name)
  | string value => some value
  | enumValue name => some name
  | _ => none

def boolean? : Literal → Option Bool
  | boolean value => some value
  | _ => none

end Literal
end GraphQLProjections
