import GraphQLProjections.Decimal.Shortest
import GraphQLProjections.Text.Quoted
import GraphQLProjections.Entries

/-! JSON values whose objects keep the order of their members, and their two written forms:
on one line, and indented by two spaces a level. -/
namespace GraphQLProjections

inductive Json where
  | null
  | bool (value : Bool)
  | integer (value : Int)
  | float (value : Binary64)
  | string (value : String)
  | array (items : List Json)
  | object (members : List (String × Json))
  deriving Repr, Inhabited

namespace Json

def optional (write : α → Json) : Option α → Json
  | none => .null
  | some value => write value

def strings (values : List String) : Json := .array (values.map .string)

/-- Members that are left out when they hold nothing. -/
def memberUnlessEmpty (name : String) (write : List α → Json) (values : List α) :
    List (String × Json) :=
  if values.isEmpty then [] else [(name, write values)]

def memberIfSome (name : String) (write : α → Json) : Option α → List (String × Json)
  | none => []
  | some value => [(name, write value)]

mutual
/-- On one line, without blanks. An infinite number has no JSON form and becomes null. -/
def compact : Json → String
  | null => "null"
  | bool value => if value then "true" else "false"
  | integer value => toString value
  | float value =>
    if value.isInfinite then "null" else Decimal.text Decimal.messageNotation value
  | string value => Text.dataQuoted value
  | array items => "[" ++ ",".intercalate (compactItems items) ++ "]"
  | object members => "\x7b" ++ ",".intercalate (compactMembers members) ++ "\x7d"

def compactItems : List Json → List String
  | [] => []
  | item :: rest => compact item :: compactItems rest

def compactMembers : List (String × Json) → List String
  | [] => []
  | (name, value) :: rest =>
    (Text.dataQuoted name ++ ":" ++ compact value) :: compactMembers rest
end

def indent (level : Nat) : String := String.ofList (List.replicate (2 * level) ' ')

/-- Items one to a line between brackets, or the bare brackets around nothing. -/
def block (opening closing : String) (level : Nat) (items : List String) : String :=
  if items.isEmpty then opening ++ closing
  else
    let separator := ",\n" ++ indent (level + 1)
    opening ++ "\n" ++ indent (level + 1) ++ separator.intercalate items ++ "\n" ++
      indent level ++ closing

mutual
/-- The indented form, for a value that starts on a line of the given level. -/
def pretty (level : Nat) : Json → String
  | null => "null"
  | bool value => if value then "true" else "false"
  | integer value => toString value
  | float value =>
    if value.isInfinite then "null" else Decimal.text Decimal.messageNotation value
  | string value => Text.dataQuoted value
  | array items => block "[" "]" level (prettyItems (level + 1) items)
  | object members => block "\x7b" "\x7d" level (prettyMembers (level + 1) members)

def prettyItems (level : Nat) : List Json → List String
  | [] => []
  | item :: rest => pretty level item :: prettyItems level rest

def prettyMembers (level : Nat) : List (String × Json) → List String
  | [] => []
  | (name, value) :: rest =>
    (Text.dataQuoted name ++ ": " ++ pretty level value) :: prettyMembers level rest
end

end Json
end GraphQLProjections
