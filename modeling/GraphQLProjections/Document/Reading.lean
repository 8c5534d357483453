import GraphQLProjections.Document.Token
import GraphQLProjections.TypeRef

/-! Reading a document token by token. One token of look-ahead decides every choice, so a reading
fails at the first token that fits nowhere, and its position is the whole account of the failure. -/
namespace GraphQLProjections.Document

abbrev Reading := StateT (List Token) (Except Position)

namespace Reading

def token : Reading Token := do
  match ← get with
  | [] => pure ⟨.finish, .start⟩
  | found :: _ => pure found

def peek : Reading Lexeme := do
  return (← token).lexeme

def skip : Reading Unit := modify List.tail

def refuse : Reading α := do
  throw (← token).position

def mark (symbol : Char) : Reading Unit := do
  if (← peek) = .mark symbol then skip else refuse

def keyword (text : String) : Reading Unit := do
  if (← peek) = .name text then skip else refuse

def name : Reading String := do
  match ← peek with
  | .name text => skip; pure text
  | _ => refuse

def optionalMark (symbol : Char) : Reading Bool := do
  if (← peek) = .mark symbol then
    skip
    pure true
  else pure false

def optionalKeyword (text : String) : Reading Bool := do
  if (← peek) = .name text then
    skip
    pure true
  else pure false

/-- Read items as long as the next token starts one. An item takes at least one token, so a bound
of the number of tokens suffices. -/
def repeated (starts : Lexeme → Bool) (item : Reading α) : Nat → Reading (List α)
  | 0 => pure []
  | bound + 1 => do
    if starts (← peek) then
      let first ← item
      let rest ← repeated starts item bound
      pure (first :: rest)
    else pure []

def many (starts : Lexeme → Bool) (item : Reading α) : Reading (List α) := do
  repeated starts item (← get).length

def many1 (starts : Lexeme → Bool) (item : Reading α) : Reading (List α) := do
  let first ← item
  let rest ← many starts item
  pure (first :: rest)

def separated (separator : Char) (item : Reading α) : Reading (List α) := do
  let first ← item
  let rest ← many (· == .mark separator) (do skip; item)
  pure (first :: rest)

def startsName : Lexeme → Bool
  | .name _ => true
  | _ => false

/-- Items between a pair of marks, at least one; nothing if the opening mark does not come. -/
def optionalGroup (opening closing : Char) (starts : Lexeme → Bool) (item : Reading α) :
    Reading (List α) := do
  if ← optionalMark opening then
    let items ← many1 starts item
    mark closing
    pure items
  else pure []

def startsLiteral (references : Bool) : Lexeme → Bool
  | .mark '$' => references
  | .mark '[' | .mark '\x7b' => true
  | .name _ | .integer _ | .float _ | .string _ => true
  | _ => false

def literalWithin (references : Bool) : Nat → Reading Literal
  | 0 => refuse
  | depth + 1 => do
    match ← peek with
    | .name text =>
      skip
      pure <| match text with
        | "true" => .boolean true
        | "false" => .boolean false
        | "null" => .null
        | _ => .enumValue text
    | .integer value => skip; pure (.integer value)
    | .float value => skip; pure (.float value)
    | .string value => skip; pure (.string value)
    | .mark '$' =>
      if references then
        skip
        return .reference (← name)
      else refuse
    | .mark '[' =>
      skip
      let items ← many (startsLiteral references) (literalWithin references depth)
      mark ']'
      pure (.list items)
    | .mark '\x7b' =>
      skip
      let fields ← many startsName do
        let field ← name
        mark ':'
        let value ← literalWithin references depth
        pure (field, value)
      mark '\x7d'
      pure (.object (Entries.sorted fields))
    | _ => refuse

/-- A literal in which variables may occur. -/
def literal : Reading Literal := literalWithin true (nestingLimit + 1)

def constantLiteral : Reading Literal := literalWithin false (nestingLimit + 1)

def typeRefWithin : Nat → Reading TypeRef
  | 0 => refuse
  | depth + 1 => do
    let inner ← match ← peek with
      | .name text => skip; pure (.named text)
      | .mark '[' =>
        skip
        let item ← typeRefWithin depth
        mark ']'
        pure (.list item)
      | _ => refuse
    if ← optionalMark '!' then pure (.nonNull inner) else pure inner

def typeRef : Reading TypeRef := typeRefWithin (nestingLimit + 1)

def callArguments : Reading (List (String × Literal)) :=
  optionalGroup '(' ')' startsName do
    let argument ← name
    mark ':'
    let value ← literal
    pure (argument, value)

def document (definition : Reading α) (text : String) : Except Position (List α) :=
  let whole : Reading (List α) := do
    let definitions ← many1 (fun next => next != .finish) definition
    if (← peek) = .finish then pure definitions else refuse
  (whole.run (tokens text)).map Prod.fst

end Reading
end GraphQLProjections.Document
