import GraphQLProjections.Error

/-! Key selections of entities, such as `movieId actor { name }`: ordered trees of field names.
Blanks and commas separate names and braces stand for themselves. A field that comes again keeps
its place, and its groups are merged. -/
namespace GraphQLProjections

/-- Fields in order; a field with a nested tree is a composite key. -/
inductive KeyTree where
  | mk (fields : List (String × Option KeyTree))
  deriving Repr, Inhabited

namespace KeyTree

def fields : KeyTree → Entries (Option KeyTree)
  | mk fields => fields

def empty : KeyTree := mk []

def isEmpty (tree : KeyTree) : Bool := tree.fields.isEmpty

def fieldNames (tree : KeyTree) : List String := tree.fields.names

def nested? (tree : KeyTree) (field : String) : Option KeyTree :=
  (tree.fields.lookup field).join

/-- Add a field without a group, unless it is there. -/
def addField (tree : KeyTree) (field : String) : KeyTree :=
  mk (tree.fields.upsert field fun held => held.join)

mutual
def merge (tree : KeyTree) : KeyTree → KeyTree
  | mk additions => mk (mergeFields tree.fields additions)

def mergeFields (held : List (String × Option KeyTree)) :
    List (String × Option KeyTree) → List (String × Option KeyTree)
  | [] => held
  | (field, none) :: rest => mergeFields (Entries.upsert field (fun old => old.join) held) rest
  | (field, some group) :: rest =>
    mergeFields
      (Entries.upsert field
        (fun old => match old.join with
          | some existing => some (merge existing group)
          | none => some group) held)
      rest
end

def addGroup (tree : KeyTree) (field : String) (group : KeyTree) : KeyTree :=
  mk (tree.fields.upsert field fun held => match held.join with
    | some existing => some (existing.merge group)
    | none => some group)

/-- One tree of several selections, keeping the order of first occurrence. -/
def merged (trees : List KeyTree) : KeyTree :=
  trees.foldl merge empty

inductive Token where
  | name (text : String)
  | opening
  | closing
  deriving DecidableEq, Repr, Inhabited

def isSeparator (c : Char) : Bool :=
  Text.isBlank c || c == ',' || c == '\x7b' || c == '\x7d'

/-- The name gathered so far, in reverse, as a token. -/
def pendingName (gathered : List Char) : List Token :=
  if gathered.isEmpty then [] else [.name (String.ofList gathered.reverse)]

/-- Braces, and maximal runs of other characters between separators. -/
def tokensFrom (gathered : List Char) : List Char → List Token
  | [] => pendingName gathered
  | c :: rest =>
    if isSeparator c then
      let mark := if c = '\x7b' then [Token.opening] else if c = '\x7d' then [.closing] else []
      pendingName gathered ++ mark ++ tokensFrom [] rest
    else tokensFrom (c :: gathered) rest

def tokens (selection : String) : List Token := tokensFrom [] selection.toList

/-- The groups that are open, innermost first: each with its field and the fields before it. -/
abbrev OpenGroups := List (String × KeyTree)

/-- Read tokens into `current`; `last` is the field that a brace may follow. -/
def readTokens (groups : OpenGroups) (current : KeyTree) (last : Option String) :
    List Token → Except KeyFault KeyTree
  | [] =>
    match groups with
    | (field, _) :: _ => .error (.unclosedGroup field)
    | [] => if current.isEmpty then .error .emptySelection else .ok current
  | .opening :: rest =>
    match last with
    | none => .error .groupWithoutField
    | some field => readTokens ((field, current) :: groups) empty none rest
  | .closing :: rest =>
    match groups with
    | [] => .error .unbalancedClose
    | (field, outer) :: groups =>
      if current.isEmpty then .error (.emptyGroup field)
      else readTokens groups (outer.addGroup field current) none rest
  | .name field :: rest => readTokens groups (current.addField field) (some field) rest

/-- Read a key selection declared on `entity`. -/
def parse (entity selection : String) : Except Error KeyTree :=
  match readTokens [] empty none (tokens selection) with
  | .ok tree => .ok tree
  | .error fault => .error (.malformedKey entity selection fault)

end KeyTree
end GraphQLProjections
